import EntitySession.Act
import EntitySession.Row
import EntitySession.Sqlite.Engine
import EntitySession.Sqlite.Options
import EntitySession.Surroundings

/-!
# Connections

A `Connection` drives one handle of an engine and remembers whether it commits by itself.  While it
does, every statement is a transaction of its own.  While it does not, the first statement begins a
transaction, which lasts until it is committed or rolled back; turning automatic commit on again
commits it.

The transaction is begun before a statement is even looked at, so a statement that is refused leaves
one open.  A commit that fails leaves its transaction open too, to be committed later or rolled back.

The connection does not read the texts that it is given, except for a letter NUL, which it refuses.  They
go to the engine as they are.
-/

set_option autoImplicit false

namespace EntitySession.Sqlite

/-- A connection to a database. -/
structure Connection where
  path : String
  handle : HandleId
  /-- Whether every statement is a transaction of its own. -/
  autoCommit : Bool
  /-- Whether a transaction is open. -/
  inTransaction : Bool
  isClosed : Bool
  deriving DecidableEq

namespace Connection

/-- A new connection over a handle. -/
def start (path : String) (handle : HandleId) : Connection := ⟨path, handle, true, false, false⟩

/-- The connection as it shows itself. -/
def describe (c : Connection) : String :=
  "SqliteConnection \x7b path: " ++ Text.quote c.path ++ ", closed: "
    ++ (if c.isClosed then "true" else "false") ++ " \x7d"

variable {ε α : Type}

/-- The failure of a call that is no failure of the engine. -/
def refuse (kind : QueryFaultKind) (sql : Option String) (message : String) :
    Act (Connection × ε) α :=
  throw (Fault.query kind sql message).error

/-- The present state of the connection. -/
def current : Act (Connection × ε) Connection := .reading fun (c, _) => .ok c

/-- Changes the connection. -/
def modify (f : Connection → Connection) : Act (Connection × ε) Unit :=
  .of fun (c, engine) => (.ok (), (f c, engine))

/-- A call of the engine for the handle of the connection, and what becomes of its report. -/
def reporting (error : Report → Error) (f : HandleId → ε → Except Report α × ε) :
    Act (Connection × ε) α :=
  .of fun (c, engine) =>
    let (r, engine) := f c.handle engine
    (r.mapError error, (c, engine))

/-- A call of the engine on account of a text. -/
def call (sql : String) (f : HandleId → ε → Except Report α × ε) : Act (Connection × ε) α :=
  reporting (fun report => report.error (some sql)) f

/-- Looks at the engine. -/
def ask (f : HandleId → ε → α) : Act (Connection × ε) α :=
  .reading fun (c, engine) => .ok (f c.handle engine)

/-- Goes on only while the connection is not closed. -/
def ensureOpen (sql : Option String) : Act (Connection × ε) Unit := do
  let c ← current
  if c.isClosed then refuse .closed sql "connection is closed"

variable [Engine ε]

/-! ## Transactions -/

/-- Begins the transaction that statements need while automatic commit is off. -/
def beginIfNeeded : Act (Connection × ε) Unit := do
  let c ← current
  if !c.autoCommit && !c.inTransaction then
    call "BEGIN" Engine.begin
    modify fun c => { c with inTransaction := true }

/-- Ends the open transaction, if there is one. -/
def finish (sql : String) (how : HandleId → ε → Except Report Unit × ε) :
    Act (Connection × ε) Unit := do
  let c ← current
  if c.inTransaction then
    call sql how
    modify fun c => { c with inTransaction := false }

/-- Whether the connection commits by itself. -/
def autoCommitNow : Act (Connection × ε) Bool := do
  ensureOpen none
  let c ← current
  pure c.autoCommit

/-- Turns automatic commit on or off. -/
def setAutoCommit (on : Bool) : Act (Connection × ε) Unit := do
  ensureOpen none
  if on then finish "COMMIT" Engine.commit
  modify fun c => { c with autoCommit := on }

/-- Commits the open transaction. -/
def commit : Act (Connection × ε) Unit := do
  ensureOpen (some "COMMIT")
  let c ← current
  if c.autoCommit then
    refuse .database (some "COMMIT") "cannot commit while autocommit is enabled"
  finish "COMMIT" Engine.commit

/-- Rolls the open transaction back. -/
def rollback : Act (Connection × ε) Unit := do
  ensureOpen (some "ROLLBACK")
  let c ← current
  if c.autoCommit then
    refuse .database (some "ROLLBACK") "cannot roll back while autocommit is enabled"
  finish "ROLLBACK" Engine.rollback

/-- The error of a handle that cannot be given up. -/
def closingError (r : Report) : Error :=
  (Fault.query .database none ("failed to close database: " ++ codeText r.code)).error

/-- Closes the connection, which gives up an open transaction.  Closing it again does nothing. -/
def close : Act (Connection × ε) Unit := do
  let c ← current
  if !c.isClosed then
    reporting closingError Engine.close
    modify fun c => { c with isClosed := true, inTransaction := false }

/-! ## Statements -/

/-- Begins to run a text; one that holds a NUL is refused. -/
def enter (sql : String) : Act (Connection × ε) Unit := do
  ensureOpen (some sql)
  beginIfNeeded
  if sql.toList.contains '\x00' then refuse .syntaxError (some sql) "SQL contains null byte"

/-- The names of columns; one without a name is called by its position. -/
def columnNames (names : List (Option String)) : List String :=
  names.zipIdx.map fun (name, i) => name.getD ("col" ++ toString i)

/-- Prepares the first statement of a text; the names of the columns of its rows. -/
def prepare (sql : String) : Act (Connection × ε) (List String) := do
  match ← call sql fun i => Engine.prepare i sql with
  | none => refuse .syntaxError (some sql) "SQL contains no statement"
  | some names => pure (columnNames names)

/-- The error of a parameter that cannot be bound. -/
def bindingError (sql : String) (position : Nat) (r : Report) : Error :=
  (Fault.query .database (some sql)
    ("Failed to bind parameter " ++ toString (position + 1) ++ ": " ++ r.message)).error

/-- Binds cells to the parameters from a position on, up to the first that cannot be bound. -/
def bindFrom (sql : String) : Nat → List Cell → Act (Connection × ε) Unit
  | _, [] => pure ()
  | position, x :: rest => do
    .reading fun (c, engine) =>
      (Engine.bind c.handle sql position x engine).mapError (bindingError sql position)
    bindFrom sql (position + 1) rest

/-- Runs the first statement of a text with parameters; the names of the columns and the rows. -/
def run (sql : String) (parameters : List Value) :
    Act (Connection × ε) (List String × List (List Cell)) := do
  enter sql
  let names ← prepare sql
  let cells := parameters.map Cell.ofValue
  bindFrom sql 0 cells
  let rows ← call sql fun i => Engine.run i sql cells
  pure (names, rows)

/-- Runs all statements of a text. -/
def runScript (sql : String) : Act (Connection × ε) Unit := do
  enter sql
  call sql fun i => Engine.exec i sql

/-- The values of as many cells as are wanted, missing ones being NULL. -/
def values (count : Nat) (cells : List Cell) : List Value :=
  ((cells ++ List.replicate (count - cells.length) Cell.null).take count).map Cell.toValue

/-- Runs a statement that gives rows.  Their columns are those that were found when the statement was
prepared. -/
def query (sql : String) (parameters : List Value) : Act (Connection × ε) (List Row) := do
  let (names, rows) ← run sql parameters
  pure (rows.map fun cells => Row.of names (values names.length cells))

/-- How many rows were changed last. -/
def changes : Act (Connection × ε) Nat := do
  ensureOpen none
  ask Engine.changes

/-- The identifier of the row that was added last. -/
def lastRowId : Act (Connection × ε) Int := do
  ensureOpen none
  ask Engine.lastRowId

/-- Runs a statement that changes rows; how many were changed last is the answer. -/
def execute (sql : String) (parameters : List Value) : Act (Connection × ε) Nat := do
  let _ ← run sql parameters
  ask Engine.changes

/-- Runs a statement that adds rows.  When rows were changed, the identifier of the row that was added
last is the generated key. -/
def insert (sql : String) (parameters : List Value) : Act (Connection × ε) InsertResult := do
  let rows ← execute sql parameters
  if rows = 0 then pure ⟨0, []⟩
  else
    let id ← ask Engine.lastRowId
    pure ⟨rows, [.bigInt (Int64.ofInt id)]⟩

end Connection

end EntitySession.Sqlite
