import EntitySession.Sqlite.Command
import EntitySession.Sqlite.Failure
import EntitySession.Text.Folding

/-!
# The contents of a database

`Contents` are the tables of a database with their rows, and `Contents.run` is what a command does to
them.  Names of tables and columns are compared without their case.

Before a command runs, `Contents.check` looks for the tables and columns that it names, for which the
rows do not matter.  A command that runs and fails leaves the contents as they were, however many rows
it had changed by then.  The only trace is the identifier of the last row that was added, which is
remembered even of a row that was taken out again.

This needs a record of what the command did, and there is none for some insertions: those that leave
out rows, those of one row, and those that cannot break a rule of the table.  When one of them fails
for another reason than a rule, the rows that it has added stay (`StoredTable.takesBack`).  When it
fails for want of identifiers, all of the transaction is given up.

The rows of a table are kept in the order of their identifiers.
-/

set_option autoImplicit false

namespace EntitySession.Sqlite

/-- A row with its identifier. -/
structure StoredRow where
  id : Int
  cells : List Cell
  deriving DecidableEq

/-- A table and its rows. -/
structure StoredTable where
  name : String
  columns : List ColumnSpec
  /-- The rows in the order of their identifiers. -/
  rows : List StoredRow
  /-- The largest identifier that was ever given out. -/
  sequence : Int
  deriving DecidableEq

namespace StoredTable

/-- Whether two names are the same. -/
def sameName (a b : String) : Bool := Text.fold a == Text.fold b

/-- The position of a column. -/
def indexOf? (t : StoredTable) (column : String) : Option Nat :=
  t.columns.findIdx? fun c => sameName c.name column

/-- The position of the column that is the identifier of the row. -/
def rowIdIndex? (t : StoredTable) : Option Nat := t.columns.findIdx? ColumnSpec.isRowId

/-- Puts a row in its place. -/
def place (row : StoredRow) : List StoredRow → List StoredRow
  | [] => [row]
  | r :: rest => if row.id < r.id then row :: r :: rest else r :: place row rest

/-- The largest identifier of a row, or 0. -/
def largestId (t : StoredTable) : Int := ((t.rows.getLast?).map StoredRow.id).getD 0

/-- Whether identifiers are never given out twice. -/
def counts (t : StoredTable) : Bool := t.columns.any ColumnSpec.autoIncrement

/-- The largest identifier that there can be. -/
def lastOfIds : Int := 9223372036854775807

/-- The smallest positive identifier that no row has, looked for among the first ones. -/
def freeId (t : StoredTable) : Int :=
  let isFree (n : Nat) : Bool := !t.rows.any fun r => r.id == (n + 1 : Nat)
  (((List.range (t.rows.length + 1)).find? isFree).getD 0 + 1 : Nat)

/-- The identifier of the next row: one more than the largest one.  When there is no such number,
identifiers that are never given out twice have come to their end. -/
def nextId (t : StoredTable) : Except Failure Int :=
  let last := if t.counts then max t.largestId t.sequence else t.largestId
  if last < lastOfIds then .ok (last + 1)
  else if t.counts then .error .full
  else .ok t.freeId

/-- The identifier that a cell gives to a row; NULL asks for the next one.  A double gives one if it is a
whole number and not too large. -/
def idOf (t : StoredTable) : Cell → Except Failure Int
  | .null => t.nextId
  | .integer n => .ok n.toInt
  | .real x =>
    let n := x.signedMagnitude / twoTo 1074
    if x.signedMagnitude % twoTo 1074 = 0 ∧ -lastOfIds ≤ n ∧ n < lastOfIds then .ok n
    else .error .mismatch
  | _ => .error .mismatch

/-- Checks a row against the rules of the table, where it takes the place of the rows with the
identifiers `replaced`.  Missing cells are found first, then a repeated identifier, then the repeated
cells of other columns, the last column first. -/
def checkRow (t : StoredTable) (replaced : List Int) (row : StoredRow) : Except Failure Unit :=
  let others := t.rows.filter fun r => !replaced.contains r.id
  let columns := t.columns.zip (row.cells.zip (List.range row.cells.length))
  let missing := columns.find? fun (c, cell, _) => c.notNull && !c.isRowId && cell.isNull
  let repeated := columns.reverse.find? fun (c, cell, i) =>
    c.unique && !c.isRowId && others.any fun r => cell.equals (r.cells.getD i .null)
  let idColumn := ((t.columns.find? ColumnSpec.isRowId).map ColumnSpec.name).getD "rowid"
  match missing, others.any fun r => r.id == row.id, repeated with
  | some (c, _), _, _ => .error (.nullNotAllowed t.name c.name)
  | none, true, _ => .error (.notUnique t.name idColumn)
  | none, false, some (c, _) => .error (.notUnique t.name c.name)
  | none, false, none => .ok ()

/-- The cells of a row with its identifier in the column that stands for it. -/
def withId (t : StoredTable) (id : Int) (cells : List Cell) : List Cell :=
  match t.rowIdIndex? with
  | some i => cells.set i (.integer (Int64.ofInt id))
  | none => cells

/-- The table with a row added. -/
def add (t : StoredTable) (cells : List Cell) : Except Failure (Int × StoredTable) := do
  let id ← match t.rowIdIndex? with
    | some i => t.idOf (cells.getD i .null)
    | none => t.nextId
  let row := ⟨id, t.withId id cells⟩
  t.checkRow [] row
  .ok (id, { t with rows := place row t.rows, sequence := max t.sequence id })

/-- The table after an identifier was asked for and its row was left out. -/
def skip (t : StoredTable) (cells : List Cell) : StoredTable :=
  let id := (t.rowIdIndex?.map fun i => t.idOf (cells.getD i .null)).getD t.nextId
  match id with
  | .ok id => { t with sequence := max t.sequence id }
  | .error _ => t

/-- Whether an insertion that gives cells for some columns gives one for the identifier. -/
def givesId (t : StoredTable) (columns : Option (List String)) : Bool :=
  (t.columns.find? ColumnSpec.isRowId).any fun c =>
    columns.all fun names => names.any fun n => sameName c.name n

/-- Whether an insertion of several rows takes back the first ones if it fails at a later one. -/
def takesBack (t : StoredTable) (ignore : Bool) (columns : Option (List String)) (rows : Nat) : Bool :=
  let hasRules := t.columns.any fun c => (c.notNull || c.unique) && !c.isRowId
  !ignore && decide (1 < rows) && (hasRules || t.givesId columns)

/-- The table with other cells in the row with an identifier. -/
def replace (t : StoredTable) (id : Int) (cells : List Cell) : Except Failure StoredTable := do
  let newId ← match t.rowIdIndex? with
    | some i =>
      if (cells.getD i .null).isNull then .error .mismatch else t.idOf (cells.getD i .null)
    | none => .ok id
  let row := ⟨newId, t.withId newId cells⟩
  t.checkRow [id] row
  .ok { t with rows := place row (t.rows.filter fun r => r.id != id) }

end StoredTable

/-- The tables of a database. -/
abbrev Contents : Type := List StoredTable

/-- What became of a command that ran. -/
structure Execution where
  /-- The rows that a selection answers. -/
  result : Except Failure (List (List Cell))
  /-- The contents that are left, if the transaction is not given up. -/
  contents : Option Contents
  /-- How many rows were added, changed or deleted, of a command that does such things. -/
  changed : Option Nat
  /-- The identifier of the last row that was added, if any was. -/
  lastId : Option Int

namespace Contents

/-- A table by its name. -/
def table? (d : Contents) (name : String) : Option StoredTable :=
  d.find? fun t => StoredTable.sameName t.name name

/-- The table that a command names. -/
def table (d : Contents) (name : String) : Except Failure StoredTable :=
  match d.table? name with
  | some t => .ok t
  | none => .error (.noTable name)

/-- The contents with another state of a table. -/
def setTable (d : Contents) (t : StoredTable) : Contents :=
  d.map fun u => if u.name == t.name then t else u

/-- The tables without their rows. -/
def outline (d : Contents) : Contents := d.map fun t => { t with rows := [], sequence := 0 }

/-! ## Names -/

/-- A table under the name that a statement knows it by. -/
structure Visible where
  knownAs : String
  table : StoredTable

/-- What a statement sees: tables, and the labels of the operands that it answers. -/
structure Scope where
  tables : List Visible
  labels : List (String × Operand)

/-- What an operand comes to, once the columns are found. -/
inductive Term where
  | parameter (position : Nat)
  | constant (c : Cell)
  | zeros (count : Int)
  /-- A column of the table at a position. -/
  | place (table column : Nat)
  deriving DecidableEq

namespace Scope

/-- What the rows of one table see. -/
def ofTable (name : String) (t : StoredTable) : Scope := ⟨[⟨name, t⟩], []⟩

/-- What there is to see without a table. -/
def empty : Scope := ⟨[], []⟩

/-- The columns that a name may mean, each with the position of its table. -/
def places (s : Scope) (c : ColumnName) : List (Nat × Nat) :=
  (s.tables.zip (List.range s.tables.length)).filterMap fun (v, i) =>
    if (c.table.map fun t => StoredTable.sameName t v.knownAs).getD true then
      (v.table.indexOf? c.column).map fun j => (i, j)
    else none

/-- What a column name means in the tables.  A name that may mean several columns means none. -/
def column (s : Scope) (c : ColumnName) : Except Failure Term :=
  match s.places c with
  | [(i, j)] => .ok (.place i j)
  | [] => if c.mayBeText then .ok (.constant (.text c.column)) else .error (.noColumn c.display)
  | _ => .error (.ambiguous c.display)

/-- The operand that has a label. -/
def labelled? (s : Scope) (c : ColumnName) : Option Operand :=
  if c.table.isSome then none
  else (s.labels.find? fun (l, _) => StoredTable.sameName l c.column).map Prod.snd

/-- What an operand means, if it is not a label. -/
def plainTerm (s : Scope) : Operand → Except Failure Term
  | .parameter i => .ok (.parameter i)
  | .constant c => .ok (.constant c)
  | .zeros n => .ok (.zeros n)
  | .column c => s.column c

/-- What an operand means.  A name is that of a column if there is one, and a label otherwise. -/
def term (s : Scope) (x : Operand) : Except Failure Term :=
  match x with
  | .column c =>
    match s.places c, s.labelled? c with
    | [], some y => s.plainTerm y
    | _, _ => s.column c
  | _ => s.plainTerm x

/-- What the column means by which rows are ordered.  A label comes first. -/
def orderTerm (s : Scope) (c : ColumnName) : Except Failure Term :=
  match s.labelled? c with
  | some y => s.plainTerm y
  | none => s.column c

/-- What the two sides of a condition mean. -/
def condition (s : Scope) (c : Condition) : Except Failure (Term × Term) := do
  let left ← s.term c.left
  let right ← s.term c.right
  .ok (left, right)

end Scope

/-- The tables that a selection sees. -/
def visible (d : Contents) (s : Source) : Except Failure (List Visible) := do
  let first ← d.table s.first.table
  match s.join with
  | none => .ok [⟨s.first.knownAs, first⟩]
  | some j => do
    let other ← d.table j.other.table
    .ok [⟨s.first.knownAs, first⟩, ⟨j.other.knownAs, other⟩]

/-- What an item of a selection gives. -/
inductive Item where
  | all
  | count
  | term (t : Term)
  deriving DecidableEq

/-- What an item of a selection means, which cannot be all columns of no table. -/
def item (s : Scope) : Output → Except Failure Item
  | .all => .ok .all
  | .count _ _ => .ok .count
  | .operand x _ _ => (s.term x).map .term

/-- The name under which a term is answered that has no label: a column has its own. -/
def termName (tables : List Visible) (written : String) : Term → String
  | .place i j =>
    ((tables[i]?).bind fun v => (v.table.columns[j]?).map ColumnSpec.name).getD written
  | _ => written

/-- The names under which an item of a selection is answered. -/
def itemNames (tables : List Visible) : Output × Item → List String
  | (.count label written, _) => [label.getD written]
  | (.operand _ label written, .term t) => [label.getD (termName tables written t)]
  | _ => tables.flatMap fun v => v.table.columns.map ColumnSpec.name

/-- The operands of a selection that have labels. -/
def labels (outputs : List Output) : List (String × Operand) :=
  outputs.filterMap fun
    | .operand x (some l) _ => some (l, x)
    | _ => none

/-- Whether a name is the label of the number of rows. -/
def isCount (outputs : List Output) (c : ColumnName) : Bool :=
  c.table.isNone && outputs.any fun
    | .count (some l) _ => StoredTable.sameName l c.column
    | _ => false

/-- What a selection means. -/
structure Plan where
  tables : List Visible
  names : List String
  items : List Item
  condition : Option (Term × Term)
  join : Option (Term × Term)
  order : Option Term

/-- Finds everything that is optional. -/
def optionally {α β : Type} (f : α → Except Failure β) : Option α → Except Failure (Option β)
  | none => .ok none
  | some x => (f x).map some

/-- What a selection means.  The columns that it answers are found before those of its condition, and
then come those of the join and of the order. -/
def plan (d : Contents) (outputs : List Output) (source : Option Source) : Except Failure Plan := do
  let tables ← (source.map d.visible).getD (.ok [])
  if tables.isEmpty && outputs.contains .all then .error .noTables
  else do
    let items ← outputs.mapM (item ⟨tables, []⟩)
    let scope : Scope := ⟨tables, labels outputs⟩
    let condition ← optionally scope.condition (source.bind Source.condition)
    let join ← optionally scope.condition ((source.bind Source.join).map Join.condition)
    let order := (source.bind Source.order).filter fun c => !isCount outputs c
    let order ← optionally scope.orderTerm order
    .ok ⟨tables, (outputs.zip items).flatMap (itemNames tables), items, condition, join, order⟩

/-- Looks for the columns of an insertion, and at how many values its rows have. -/
def checkInsert (t : StoredTable) (asWritten : String) (columns : Option (List String))
    (rows : List (List Operand)) : Except Failure Unit :=
  match (columns.getD []).find? fun n => (t.indexOf? n).isNone with
  | some n => .error (.noColumnIn asWritten n)
  | none => do
    let _ ← rows.mapM fun row => row.mapM Scope.empty.term
    let values := (rows.headD []).length
    match columns with
    | some names =>
      if names.length = values then .ok () else .error (.valuesForColumns values names.length)
    | none =>
      if t.columns.length = values then .ok ()
      else .error (.valuesForTable asWritten t.columns.length values)

/-- What the assignments of an update mean: positions of columns, and what they are set to. -/
def assignments (s : Scope) (t : StoredTable) (changes : List (String × Operand)) :
    Except Failure (List (Nat × Term)) :=
  changes.mapM fun (c, x) => do
    let value ← s.term x
    match t.indexOf? c with
    | some i => .ok (i, value)
    | none => .error (.noColumn c)

/-- The first column name of a new table that was used before. -/
def repeatedName? : List ColumnSpec → List String → Option String
  | [], _ => none
  | c :: rest, seen =>
    if seen.any (StoredTable.sameName c.name) then some c.name else repeatedName? rest (c.name :: seen)

/-- Looks for the tables and columns that a command names.  The answer is the names under which a
selection answers. -/
def check (d : Contents) : Command → Except Failure (List String)
  | .createTable name written columns =>
    if (d.table? name).isSome then .error (.tableExists written)
    else match repeatedName? columns [] with
      | some c => .error (.repeatedColumn c)
      | none => .ok []
  | .dropTable name => do
    let _ ← d.table name
    .ok []
  | .insert _ name columns rows => do
    let t ← d.table name
    checkInsert t name columns rows
    .ok []
  | .select outputs source => (d.plan outputs source).map Plan.names
  | .update name changes condition => do
    let t ← d.table name
    let _ ← assignments (.ofTable name t) t changes
    let _ ← optionally (Scope.ofTable name t).condition condition
    .ok []
  | .delete name condition => do
    let t ← d.table name
    let _ ← optionally (Scope.ofTable name t).condition condition
    .ok []

/-! ## Rows -/

/-- The most bytes that a cell may have. -/
def longestCell : Int := 1000000000

/-- The cell that a term stands for, given a row of every table; a parameter that was not given is
NULL. -/
def cell (parameters : List Cell) (rows : List (List Cell)) : Term → Except Failure Cell
  | .parameter i => .ok (parameters.getD i .null)
  | .constant c => .ok c
  | .zeros n =>
    if longestCell < n then .error .tooBig else .ok (.blob (List.replicate n.toNat 0))
  | .place i j => .ok ((rows.getD i []).getD j .null)

/-- Whether rows satisfy a condition. -/
def satisfies (parameters : List Cell) (rows : List (List Cell)) :
    Option (Term × Term) → Except Failure Bool
  | none => .ok true
  | some (left, right) => do
    let x ← cell parameters rows left
    let y ← cell parameters rows right
    .ok (x.equals y)

/-- The combinations of rows that a selection goes through: those of its only table, or for each row
of the second table the rows of the first that match it. -/
def combinations (parameters : List Cell) (p : Plan) : Except Failure (List (List (List Cell))) :=
  match p.tables with
  | [v] => .ok (v.table.rows.map fun r => [r.cells])
  | [v, w] =>
    (w.table.rows.flatMap fun s => v.table.rows.map fun r => [r.cells, s.cells]).filterM fun rows =>
      satisfies parameters rows p.join
  | _ => .ok [[]]

/-- The cells that an item of a selection gives for a combination of rows. -/
def itemCells (parameters : List Cell) (total : Nat) (rows : List (List Cell)) :
    Item → Except Failure (List Cell)
  | .all => .ok rows.flatten
  | .count => .ok [.integer (Int64.ofInt total)]
  | .term t => (cell parameters rows t).map fun c => [c]

/-- Puts combinations of rows into the order of a term; equal ones stay as they were. -/
def sorted (parameters : List Cell) (order : Option Term) (found : List (List (List Cell))) :
    Except Failure (List (List (List Cell))) :=
  match order with
  | none => .ok found
  | some t => do
    let keyed ← found.mapM fun rows => (cell parameters rows t).map fun c => (c, rows)
    .ok ((keyed.mergeSort fun a b => a.1.le b.1).map Prod.snd)

/-- The rows that a selection answers. -/
def select (d : Contents) (parameters : List Cell) (outputs : List Output) (source : Option Source) :
    Except Failure (List (List Cell)) := do
  let p ← d.plan outputs source
  let all ← combinations parameters p
  let found ← all.filterM fun rows => satisfies parameters rows p.condition
  let found ← sorted parameters p.order found
  let shown := if p.items.contains .count then [found.headD []] else found
  shown.mapM fun rows =>
    (p.items.mapM (itemCells parameters found.length rows)).map List.flatten

/-! ## Changes -/

/-- The cells of a new row, those that are not given being NULL.  Of several cells for one column the
first one counts, but for the identifier it is the last one. -/
def newCells (t : StoredTable) (columns : Option (List String)) (given : List Cell) : List Cell :=
  match columns with
  | none => given
  | some names =>
    t.columns.map fun c =>
      let cells := (names.zip given).filterMap fun (n, x) =>
        if StoredTable.sameName c.name n then some x else none
      ((if c.isRowId then cells.getLast? else cells.head?)).getD .null

/-- How far an insertion came. -/
structure Insertion where
  table : StoredTable
  added : Nat
  /-- The identifier of the last row that was added. -/
  lastId : Option Int
  /-- Why it came no further. -/
  failure : Option Failure

/-- Adds rows one after another. -/
def addRows (parameters : List Cell) (ignore : Bool) (columns : Option (List String)) :
    List (List Operand) → StoredTable → Nat → Option Int → Insertion
  | [], t, added, lastId => ⟨t, added, lastId, none⟩
  | row :: rest, t, added, lastId =>
    match row.mapM fun x => (Scope.empty.term x).bind (cell parameters []) with
    | .error f => ⟨t, added, lastId, some f⟩
    | .ok given =>
      let cells := newCells t columns given
      match t.add cells with
      | .ok (id, t) => addRows parameters ignore columns rest t (added + 1) (some id)
      | .error f =>
        if ignore && f.isConstraint then
          addRows parameters ignore columns rest (t.skip cells) added lastId
        else ⟨t, added, lastId, some f⟩

/-- The identifiers of the rows of a table that satisfy a condition. -/
def matchingIds (t : StoredTable) (name : String) (parameters : List Cell)
    (condition : Option Condition) : Except Failure (List Int) := do
  let condition ← optionally (Scope.ofTable name t).condition condition
  let rows ← t.rows.filterM fun r => satisfies parameters [r.cells] condition
  .ok (rows.map StoredRow.id)

/-- The cells of a row after assignments; of several to one column the last one counts. -/
def assign (parameters : List Cell) (changes : List (Nat × Term)) (cells : List Cell) :
    Except Failure (List Cell) := do
  let values ← changes.mapM fun (i, x) => (cell parameters [cells] x).map fun c => (i, c)
  .ok (values.foldl (fun cells (i, c) => cells.set i c) cells)

/-- Changes rows one after another. -/
def changeRows (parameters : List Cell) (changes : List (Nat × Term)) :
    List Int → StoredTable → Except Failure StoredTable
  | [], t => .ok t
  | id :: rest, t => do
    match t.rows.find? fun r => r.id == id with
    | none => changeRows parameters changes rest t
    | some r => do
      let cells ← assign parameters changes r.cells
      let t ← t.replace id cells
      changeRows parameters changes rest t

/-- The execution of a command that changes rows of a table. -/
def executionOf (d : Contents) (r : Except Failure (StoredTable × Nat)) : Execution :=
  match r with
  | .ok (t, changed) => ⟨.ok [], some (d.setTable t), some changed, none⟩
  | .error f => ⟨.error f, some d, some 0, none⟩

/-- What an insertion that fails leaves, if the transaction is not given up.  Rows that stay do not
count for the largest identifier that was ever given out. -/
def remnant (d : Contents) (t : StoredTable) (takesBack : Bool) (r : Insertion) (f : Failure) :
    Option Contents :=
  if takesBack then some d
  else if f = .full then none
  else some (d.setTable { r.table with sequence := t.sequence })

/-- The execution of an insertion into a table. -/
def executionOfInsertion (d : Contents) (t : StoredTable) (takesBack : Bool) (r : Insertion) :
    Execution :=
  match r.failure with
  | none => ⟨.ok [], some (d.setTable r.table), some r.added, r.lastId⟩
  | some f => ⟨.error f, d.remnant t takesBack r f, some 0, r.lastId⟩

/-- Runs a command. -/
def run (d : Contents) (parameters : List Cell) : Command → Execution
  | .createTable name _ columns => ⟨.ok [], some (d ++ [⟨name, columns, [], 0⟩]), none, none⟩
  | .dropTable name =>
    ⟨.ok [], some (d.filter fun t => !StoredTable.sameName t.name name), none, none⟩
  | .select outputs source => ⟨d.select parameters outputs source, some d, none, none⟩
  | .insert ignore name columns rows =>
    match d.table name with
    | .error f => ⟨.error f, some d, some 0, none⟩
    | .ok t =>
      d.executionOfInsertion t (t.takesBack ignore columns rows.length)
        (addRows parameters ignore columns rows t 0 none)
  | .update name changes condition =>
    d.executionOf do
      let t ← d.table name
      let ids ← matchingIds t name parameters condition
      let changes ← assignments (.ofTable name t) t changes
      let t ← changeRows parameters changes ids t
      .ok (t, ids.length)
  | .delete name condition =>
    d.executionOf do
      let t ← d.table name
      let ids ← matchingIds t name parameters condition
      .ok ({ t with rows := t.rows.filter fun x => !ids.contains x.id }, ids.length)

end Contents

end EntitySession.Sqlite
