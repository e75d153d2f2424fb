import EntitySession.Error

/-!
# What SQLite reports

Of a call that fails the engine gives a `Report`: a result code and, mostly, a message.  The kind of
query error that it becomes goes by the code.  One code stands for whatever is wrong with the text of a
statement, or with a name in it, and there the kind goes by the wording of the message.

A `Failure` is one of those that a `Store` knows, and `Failure.report` what is reported of it.
-/

set_option autoImplicit false

namespace EntitySession.Sqlite

/-! ## Reports -/

/-- The text of a primary result code. -/
def primaryText : Int → String
  | 0 => "not an error"
  | 1 => "SQL logic error"
  | 3 => "access permission denied"
  | 4 => "query aborted"
  | 5 => "database is locked"
  | 6 => "database table is locked"
  | 7 => "out of memory"
  | 8 => "attempt to write a readonly database"
  | 9 => "interrupted"
  | 10 => "disk I/O error"
  | 11 => "database disk image is malformed"
  | 12 => "unknown operation"
  | 13 => "database or disk is full"
  | 14 => "unable to open database file"
  | 15 => "locking protocol"
  | 17 => "database schema has changed"
  | 18 => "string or blob too big"
  | 19 => "constraint failed"
  | 20 => "datatype mismatch"
  | 21 => "bad parameter or other API misuse"
  | 23 => "authorization denied"
  | 25 => "column index out of range"
  | 26 => "file is not a database"
  | 27 => "notification message"
  | 28 => "warning message"
  | _ => "unknown error"

/-- The text of a result code.  The low eight bits of an extended code are the primary one. -/
def codeText (code : Int) : String :=
  if code = 516 then "abort due to ROLLBACK"
  else if code = 100 then "another row available"
  else if code = 101 then "no more rows available"
  else primaryText (code % 256)

/-- What the engine reports of a call that has failed. -/
structure Report where
  code : Int
  message? : Option String

namespace Report

/-- The message of a report, or else the text of its code. -/
def message (r : Report) : String := r.message?.getD (codeText r.code)

/-- Whether letters have others among them, one behind the other. -/
def hasWords (words : List Char) : List Char → Bool
  | [] => words.isEmpty
  | c :: rest => words.isPrefixOf (c :: rest) || hasWords words rest

/-- The kind of an error that only its wording tells from others. -/
def kindOfWording (m : String) : QueryFaultKind :=
  if hasWords "syntax error".toList m.toList then .syntaxError
  else if "no such".toList.isPrefixOf m.toList then .notFound
  else .database

/-- The kind of query error that a report becomes. -/
def kind (r : Report) : QueryFaultKind :=
  match r.code % 256 with
  | 1 => kindOfWording r.message
  | 3 | 8 | 23 => .permission
  | 5 | 6 => .busy
  | 9 => .cancelled
  | 12 => .notFound
  | 18 => .dataTruncation
  | 19 => .constraint
  | _ => .database

/-- A report about a statement as an error. -/
def error (r : Report) (sql : Option String) : Error := (Fault.query r.kind sql r.message).error

end Report

/-! ## Failures of a store -/

/-- What can be wrong with a call of a store. -/
inductive Failure where
  /-- A statement goes on where it cannot. -/
  | unexpected (word : String)
  | unrecognized (word : String)
  | incomplete
  | unequalRows
  | noTable (name : String)
  | noColumn (name : String)
  | noColumnIn (table column : String)
  | tableExists (name : String)
  | repeatedColumn (name : String)
  | valuesForColumns (values columns : Nat)
  | valuesForTable (table : String) (columns values : Nat)
  | noTables
  | ambiguous (column : String)
  | badAuthority (name : String)
  /-- A word of a URI has no meaning for what it is about. -/
  | noMode (subject word : String)
  | noSystem (name : String)
  | modeNotAllowed (word : String)
  | mismatch
  | notUnique (table column : String)
  | nullNotAllowed (table column : String)
  | readOnly
  | locked
  | tooBig
  | cannotOpen
  | diskFault
  /-- There is no room, or no identifier, for another row. -/
  | full
  /-- There is no transaction to be ended. -/
  | noTransaction (how : String)
  | misuse
  | outOfRange
  deriving DecidableEq

namespace Failure

/-- The wording of a failure. -/
def message : Failure → String
  | unexpected word => "near \"" ++ word ++ "\": syntax error"
  | unrecognized word => "unrecognized token: \"" ++ word ++ "\""
  | incomplete => "incomplete input"
  | unequalRows => "all VALUES must have the same number of terms"
  | noTable name => "no such table: " ++ name
  | noColumn name => "no such column: " ++ name
  | noColumnIn table column => "table " ++ table ++ " has no column named " ++ column
  | tableExists name => "table " ++ name ++ " already exists"
  | repeatedColumn name => "duplicate column name: " ++ name
  | valuesForColumns values columns =>
    toString values ++ " values for " ++ toString columns ++ " columns"
  | valuesForTable table columns values =>
    "table " ++ table ++ " has " ++ toString columns ++ " columns but " ++ toString values
      ++ " values were supplied"
  | noTables => "no tables specified"
  | ambiguous column => "ambiguous column name: " ++ column
  | badAuthority name => "invalid uri authority: " ++ name
  | noMode subject word => "no such " ++ subject ++ " mode: " ++ word
  | noSystem name => "no such vfs: " ++ name
  | modeNotAllowed word => "access mode not allowed: " ++ word
  | mismatch => "datatype mismatch"
  | notUnique table column => "UNIQUE constraint failed: " ++ table ++ "." ++ column
  | nullNotAllowed table column => "NOT NULL constraint failed: " ++ table ++ "." ++ column
  | readOnly => "attempt to write a readonly database"
  | locked => "database is locked"
  | tooBig => "string or blob too big"
  | cannotOpen => "unable to open database file"
  | diskFault => "disk I/O error"
  | full => "database or disk is full"
  | noTransaction how => "cannot " ++ how ++ " - no transaction is active"
  | misuse => "bad parameter or other API misuse"
  | outOfRange => "column index out of range"

/-- The result code of a failure. -/
def code : Failure → Int
  | modeNotAllowed _ => 3
  | locked => 5
  | readOnly => 8
  | diskFault => 10
  | full => 13
  | cannotOpen => 14
  | tooBig => 18
  | notUnique _ _ | nullNotAllowed _ _ => 19
  | mismatch => 20
  | misuse => 21
  | outOfRange => 25
  | _ => 1

/-- What is reported of a failure. -/
def report (f : Failure) : Report := ⟨f.code, some f.message⟩

/-- Whether a failure breaks a rule that a table has for its rows. -/
def isConstraint : Failure → Bool
  | notUnique _ _ | nullNotAllowed _ _ => true
  | _ => false

/-- Whether a failure may come of what is remembered of the tables.  How many values there are, and
whether a column is repeated, is not doubted. -/
def isDoubtful : Failure → Bool
  | noTable _ | noColumn _ | noColumnIn _ _ | ambiguous _ | tableExists _ => true
  | _ => false

end Failure

end EntitySession.Sqlite
