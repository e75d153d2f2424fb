import EntitySession.Binary64.Reading
import EntitySession.Sqlite.Command
import EntitySession.Sqlite.Failure
import EntitySession.Sqlite.Token
import EntitySession.Sqlite.Uri

/-!
# Reading commands

A text is cut into statements at its semicolons, and `Prepared.ofWords` reads one of them.  A
reader goes over the words of a statement from left to right, counting the parameters as they come,
and stops at the first word that cannot stand where it does.

Statements without words are no statements.
-/

set_option autoImplicit false

namespace EntitySession.Sqlite

/-- The words that are still to be read, and how many parameters have been. -/
structure Ahead where
  words : List Word
  parameters : Nat

/-- A reader of a part of a statement. -/
abbrev Reader (α : Type) : Type := StateT Ahead (Except Failure) α

namespace Reader

/-- The failure of words that cannot go on like this.  A statement whose words have come to their end
is stopped by the semicolon, or else is incomplete. -/
def stuckAt (closed : Bool) : List Word → Failure
  | ⟨.unknown s, _⟩ :: _ => .unrecognized s
  | w :: _ => .unexpected w.token.source
  | [] => if closed then .unexpected ";" else .incomplete

/-- Stops. -/
def stuck {α : Type} : Reader α := fun a => .error (stuckAt false a.words)

/-- The next word, which stays ahead. -/
def peek : Reader (Option Token) := fun a => .ok (a.words.head?.map Word.token, a)

/-- Goes on to the next word. -/
def skip : Reader Unit := fun a => .ok ((), { a with words := a.words.tail })

/-- Whether a word is a keyword. -/
def isKeyword (keyword : String) : Option Token → Bool
  | some (.word s) => s.map Char.toUpper == keyword
  | _ => false

/-- Whether the next word is a keyword, which is then read. -/
def accept (keyword : String) : Reader Bool := do
  if isKeyword keyword (← peek) then do
    skip
    pure true
  else pure false

/-- Reads a keyword. -/
def expect (keyword : String) : Reader Unit := do
  if ← accept keyword then pure () else stuck

/-- Whether the next word is a sign, which is then read. -/
def acceptSign (c : Char) : Reader Bool := do
  if (← peek) == some (.sign c) then do
    skip
    pure true
  else pure false

/-- Reads a sign. -/
def expectSign (c : Char) : Reader Unit := do
  if ← acceptSign c then pure () else stuck

/-- The keywords that cannot be names. -/
def reserved : List String :=
  ["ADD", "ALL", "ALTER", "AND", "AS", "AUTOINCREMENT", "BETWEEN", "CASE", "CHECK", "COLLATE",
    "COMMIT", "CONSTRAINT", "CREATE", "DEFAULT", "DEFERRABLE", "DELETE", "DISTINCT", "DROP", "ELSE",
    "ESCAPE", "EXISTS", "FOREIGN", "FROM", "GROUP", "HAVING", "IN", "INDEX", "INSERT", "INTERSECT",
    "INTO", "IS", "ISNULL", "JOIN", "LIMIT", "NOT", "NOTHING", "NOTNULL", "NULL", "ON", "OR", "ORDER",
    "PRIMARY", "REFERENCES", "RETURNING", "SELECT", "SET", "TABLE", "THEN", "TO", "TRANSACTION",
    "UNION", "UNIQUE", "UPDATE", "USING", "VALUES", "WHEN", "WHERE"]

/-- The name that a word is, if it is one. -/
def name? : Option Token → Option String
  | some (.word s) => if reserved.contains (s.map Char.toUpper) then none else some s
  | some (.quoted s) => some (Token.unquoteName s)
  | some (.text s) => some (Token.unquote '\'' s)
  | _ => none

/-- Reads a name. -/
def name : Reader String := do
  match name? (← peek) with
  | some s => do
    skip
    pure s
  | none => stuck

/-- Reads something, and gives it with the words that it was read from. -/
def written {α : Type} (x : Reader α) : Reader (α × String) := fun a => do
  let (r, rest) ← x a
  .ok ((r, Word.written (a.words.take (a.words.length - rest.words.length))), rest)

/-- Reads items with commas between them.  There are never more items than words. -/
def items {α : Type} (item : Reader α) : Nat → Reader (List α)
  | 0 => stuck
  | fuel + 1 => do
    let x ← item
    if ← acceptSign ',' then do
      let xs ← items item fuel
      pure (x :: xs)
    else pure [x]

/-- Reads at least one item, with commas between them. -/
def commas {α : Type} (item : Reader α) : Reader (List α) := fun a => items item (a.words.length + 1) a

/-- Reads something in brackets. -/
def bracketed {α : Type} (inner : Reader α) : Reader α := do
  expectSign '('
  let x ← inner
  expectSign ')'
  pure x

/-- Reads what may follow a keyword. -/
def following {α : Type} (keyword : String) (x : Reader α) : Reader (Option α) := do
  if ← accept keyword then some <$> x else pure none

/-! ## Operands -/

/-- The worth of a whole number, in decimal digits or in hexadecimal ones behind `0x`. -/
def worth (digits : String) : Nat :=
  match digits.toList with
  | '0' :: x :: rest =>
    if x == 'x' || x == 'X' then rest.foldl (fun n c => 16 * n + (Uri.digit? c).getD 0) 0
    else digits.toNat?.getD 0
  | _ => digits.toNat?.getD 0

/-- A whole number as a cell; one that is too large is a double. -/
def numberCell (negative : Bool) (digits : String) : Cell :=
  let n : Int := if negative then -(worth digits : Int) else worth digits
  if -9223372036854775808 ≤ n ∧ n < 9223372036854775808 then .integer (Int64.ofInt n) else .real (.ofInt n)

/-- A number with a point or an exponent as a cell. -/
def realCell (negative : Bool) (digits : String) : Cell :=
  let x := (Binary64.read? digits).getD .zero
  .real (if negative then x.neg else x)

/-- The octets that are written between quotes. -/
def octetsOf (s : String) : List UInt8 :=
  let rec pairs : List Char → List UInt8
    | high :: low :: rest => UInt8.ofNat ((Uri.octet? high low).getD 0) :: pairs rest
    | _ => []
  pairs ((s.toList.drop 2).dropLast)

/-- Reads a number behind its sign. -/
def unsigned (negative : Bool) : Reader Cell := do
  match ← peek with
  | some (.number s) => do
    skip
    pure (numberCell negative s)
  | some (.real s) => do
    skip
    pure (realCell negative s)
  | _ => stuck

/-- Reads a whole number with its sign. -/
def number : Reader Int := do
  let negative ← acceptSign '-'
  match ← peek with
  | some (.number s) => do
    skip
    pure (if negative then -(worth s : Int) else worth s)
  | _ => stuck

/-- Reads a column, with its table if that is written. -/
def columnName : Reader ColumnName := do
  let mayBeText := match ← peek with
    | some (.quoted s) => s.front == '"'
    | _ => false
  let first ← name
  if ← acceptSign '.' then do
    let second ← name
    pure ⟨some first, second, false⟩
  else pure ⟨none, first, mayBeText⟩

/-- Whether the words begin with a call of a function. -/
def beginsCall (function : String) : List Word → Bool
  | w :: ⟨.sign '(', _⟩ :: _ => isKeyword function (some w.token)
  | _ => false

/-- Whether a token may be between two operands. -/
def joinsOperands : Token → Bool
  | .sign c => ['+', '-', '*', '/', '%', '&', '|', '<', '>', '='].contains c
  | .operator _ => true
  | _ => false

/-- Whether a token may begin an operand. -/
def beginsOperand : Token → Bool
  | .sign c => ['?', '-', '+', '~', '('].contains c
  | .word s => !reserved.contains (s.map Char.toUpper) || ["NULL", "NOT", "CASE", "EXISTS"].contains (s.map Char.toUpper)
  | .operator _ | .unknown _ | .gap _ => false
  | _ => true

/-- Stops where a token promises another operand and none follows. -/
def noPromise : Reader Unit := fun a =>
  match a.words with
  | w :: rest =>
    if joinsOperands w.token && !(rest.head?.any fun v => beginsOperand v.token) then
      .error (stuckAt false rest)
    else .ok ((), a)
  | [] => .ok ((), a)

/-- Reads an operand. -/
def operand : Reader Operand := do
  let ahead ← get
  let x ← (match ahead.words.head?.map Word.token with
    | some (.sign '?') => do
      skip
      set { ahead with words := ahead.words.tail, parameters := ahead.parameters + 1 }
      pure (Operand.parameter ahead.parameters)
    | some (.text s) => do
      skip
      pure (.constant (.text (Token.unquote '\'' s)))
    | some (.octets s) => do
      skip
      pure (.constant (.blob (octetsOf s)))
    | some (.number _) | some (.real _) => Operand.constant <$> unsigned false
    | some (.sign '-') => do
      skip
      Operand.constant <$> unsigned true
    | t => do
      if isKeyword "NULL" t then do
        skip
        pure (.constant .null)
      else if beginsCall "ZEROBLOB" ahead.words then do
        skip
        Operand.zeros <$> bracketed number
      else Operand.column <$> columnName)
  noPromise
  pure x

/-- Reads a condition. -/
def condition : Reader Condition := do
  let left ← operand
  if (← peek) == some (.operator "==") then skip else expectSign '='
  let right ← operand
  pure ⟨left, right⟩

/-! ## Selections -/

/-- Reads the label of an item, which needs no keyword. -/
def label : Reader (Option String) := do
  if ← accept "AS" then some <$> name
  else match name? (← peek) with
    | some s => do
      skip
      pure (some s)
    | none => pure none

/-- Reads one item of a selection. -/
def output : Reader Output := do
  let ahead ← get
  if ← acceptSign '*' then pure .all
  else if beginsCall "COUNT" ahead.words then do
    let (_, text) ← written do
      skip
      bracketed (expectSign '*')
      noPromise
    let l ← label
    pure (.count l text)
  else do
    let (x, text) ← written operand
    let l ← label
    pure (.operand x l text)

/-- Reads a table with another name for it, if there is one. -/
def tableName : Reader TableName := do
  let table ← name
  let after ← peek
  if isKeyword "AS" after then do
    skip
    let other ← name
    pure ⟨table, other⟩
  else match after with
    | some (.word s) =>
      if ["INNER", "WHERE", "ORDER"].contains (s.map Char.toUpper) then pure ⟨table, table⟩
      else match name? after with
        | some other => do
          skip
          pure ⟨table, other⟩
        | none => pure ⟨table, table⟩
    | _ => pure ⟨table, table⟩

/-- Reads a second table and how its rows are matched. -/
def join : Reader Join := do
  expect "JOIN"
  let other ← tableName
  expect "ON"
  let condition ← condition
  pure ⟨other, condition⟩

/-- Reads where the rows come from. -/
def source : Reader Source := do
  let first ← tableName
  let join ← following "INNER" join
  let condition ← following "WHERE" condition
  let order ← following "ORDER" do
    expect "BY"
    let c ← columnName
    noPromise
    pure c
  pure ⟨first, join, condition, order⟩

/-- Reads a selection after its first word. -/
def select : Reader Command := do
  let outputs ← commas output
  let source ← following "FROM" source
  pure (.select outputs source)

/-! ## Changes -/

/-- Reads an assignment. -/
def assignment : Reader (String × Operand) := do
  let column ← name
  expectSign '='
  let x ← operand
  pure (column, x)

/-- Reads an update after its first word. -/
def update : Reader Command := do
  let table ← name
  expect "SET"
  let assignments ← commas assignment
  let condition ← following "WHERE" condition
  pure (.update table assignments condition)

/-- Reads a deletion after its first word. -/
def delete : Reader Command := do
  expect "FROM"
  let table ← name
  let condition ← following "WHERE" condition
  pure (.delete table condition)

/-- Reads an insertion after its first word. -/
def insert : Reader Command := do
  let ignore ← following "OR" (expect "IGNORE")
  expect "INTO"
  let table ← name
  let columns ← (do
    if (← peek) == some (.sign '(') then some <$> bracketed (commas name) else pure none)
  expect "VALUES"
  let rows ← commas (bracketed (commas operand))
  if rows.all fun r => r.length == (rows.headD []).length then
    pure (.insert ignore.isSome table columns rows)
  else throw .unequalRows

/-! ## Tables -/

/-- Reads the words of a type. -/
def typeWords : Nat → Reader (List String)
  | 0 => pure []
  | fuel + 1 => do
    match name? (← peek) with
    | some s => do
      skip
      let rest ← typeWords fuel
      pure (s :: rest)
    | none => pure []

/-- Reads a type, which may be missing; whether it is that of whole numbers. -/
def columnType : Reader Bool := do
  let words ← fun a => typeWords a.words.length a
  if !words.isEmpty && (← peek) == some (.sign '(') then do
    let _ ← bracketed (commas number)
    pure false
  else pure (words.map (·.map Char.toUpper) == ["INTEGER"])

/-- Reads the rules for a column.  A key of whole numbers is the identifier of the row. -/
def columnRules (integer : Bool) : Nat → ColumnSpec → Reader ColumnSpec
  | 0, spec => pure spec
  | fuel + 1, spec => do
    if ← accept "PRIMARY" then
      expect "KEY"
      let counting ← accept "AUTOINCREMENT"
      columnRules integer fuel
        (if integer then { spec with isRowId := true, autoIncrement := counting }
          else { spec with unique := true })
    else if ← accept "NOT" then
      expect "NULL"
      columnRules integer fuel { spec with notNull := true }
    else if ← accept "UNIQUE" then columnRules integer fuel { spec with unique := true }
    else if ← accept "REFERENCES" then
      let _ ← name
      let _ ← bracketed name
      columnRules integer fuel spec
    else pure spec

/-- Reads a column of a new table. -/
def columnSpec : Reader ColumnSpec := do
  let name ← name
  let integer ← columnType
  fun a => columnRules integer a.words.length ⟨name, false, false, false, false⟩ a

/-- Reads a command. -/
def command : Reader Command := do
  if ← accept "SELECT" then select
  else if ← accept "INSERT" then insert
  else if ← accept "UPDATE" then update
  else if ← accept "DELETE" then delete
  else if ← accept "CREATE" then do
    expect "TABLE"
    let ahead ← get
    let table ← name
    let columns ← bracketed (commas columnSpec)
    pure (.createTable table ((ahead.words.head?.map fun w => w.token.source).getD "") columns)
  else if ← accept "DROP" then do
    expect "TABLE"
    let table ← name
    pure (.dropTable table)
  else stuck

end Reader

/-- Reads the words of one statement; whether a semicolon closes them. -/
def Prepared.ofWords (closed : Bool) (words : List Word) : Except Failure Prepared :=
  match (Reader.command.run ⟨words, 0⟩ : Except Failure (Command × Ahead)) with
  | .error .incomplete => .error (Reader.stuckAt closed [])
  | .error f => .error f
  | .ok (c, ⟨[], parameters⟩) => .ok ⟨c, parameters⟩
  | .ok (_, ⟨rest, _⟩) => .error (Reader.stuckAt closed rest)

/-- Cuts words at the semicolons; whether each piece is closed by one. -/
def cutStatements : List Word → List Word → List (Bool × List Word)
  | [], piece => [(false, piece.reverse)]
  | ⟨.sign ';', _⟩ :: rest, piece => (true, piece.reverse) :: cutStatements rest []
  | w :: rest, piece => cutStatements rest (w :: piece)

/-- The pieces of a text that have words, each of which is to be a statement. -/
def statementPieces (sql : String) : List (Bool × List Word) :=
  (cutStatements (Word.scan sql) []).filter fun piece => !piece.2.isEmpty

/-- The first statement of a text, read or refused, if there is one. -/
def Prepared.first? (sql : String) : Option (Except Failure Prepared) :=
  (statementPieces sql).head?.map fun (closed, words) => Prepared.ofWords closed words

/-- The statements of a text as texts of their own.  What comes behind the last word stays, so that no
comment swallows the semicolon. -/
def statementTexts (sql : String) : List String :=
  (statementPieces sql).map fun (closed, words) =>
    String.join (words.flatMap fun w => [w.token.source, w.gap]) ++ if closed then ";" else ""

end EntitySession.Sqlite
