import EntitySession.Sqlite.Cell

/-!
# Commands

The statements that the engine knows.  An `Operand` stands for one cell: a parameter, by its position
among the parameters of the statement, a constant, or a column of a row.  Conditions ask whether two
operands are equal.
-/

set_option autoImplicit false

namespace EntitySession.Sqlite

/-- A column, where needed with its table. -/
structure ColumnName where
  table : Option String
  column : String
  /-- Whether the name stands in double quotes, which makes it a text if there is no such column. -/
  mayBeText : Bool
  deriving DecidableEq

/-- The column as messages show it. -/
def ColumnName.display (c : ColumnName) : String :=
  match c.table with
  | some t => t ++ "." ++ c.column
  | none => c.column

/-- What stands for a cell. -/
inductive Operand where
  /-- The parameter at a position, the first at 0. -/
  | parameter (position : Nat)
  | constant (c : Cell)
  /-- A blob of zeros. -/
  | zeros (count : Int)
  | column (name : ColumnName)
  deriving DecidableEq

/-- One item of what a selection gives, with the label that it is given and the way it is written. -/
inductive Output where
  /-- All columns. -/
  | all
  /-- The number of rows. -/
  | count (label : Option String) (written : String)
  | operand (x : Operand) (label : Option String) (written : String)
  deriving DecidableEq

/-- That two operands are equal. -/
structure Condition where
  left : Operand
  right : Operand
  deriving DecidableEq

/-- A table under the name that a statement knows it by. -/
structure TableName where
  table : String
  knownAs : String
  deriving DecidableEq

/-- A second table whose rows are matched with those of the first. -/
structure Join where
  other : TableName
  condition : Condition
  deriving DecidableEq

/-- Where the rows of a selection come from. -/
structure Source where
  first : TableName
  join : Option Join
  condition : Option Condition
  order : Option ColumnName
  deriving DecidableEq

/-- A column of a new table. -/
structure ColumnSpec where
  name : String
  /-- Whether the column is the identifier of the row. -/
  isRowId : Bool
  /-- Whether no identifier is given out twice. -/
  autoIncrement : Bool
  notNull : Bool
  unique : Bool
  deriving DecidableEq

/-- A statement. -/
inductive Command where
  /-- Makes a table, whose name messages show as it is written. -/
  | createTable (name written : String) (columns : List ColumnSpec)
  | dropTable (name : String)
  /-- Adds rows; whether those that break a rule of the table are left out. -/
  | insert (ignore : Bool) (table : String) (columns : Option (List String))
      (rows : List (List Operand))
  | select (outputs : List Output) (source : Option Source)
  | update (table : String) (assignments : List (String × Operand)) (condition : Option Condition)
  | delete (table : String) (condition : Option Condition)
  deriving DecidableEq

namespace Command

/-- Whether the statement may change the database. -/
def writes : Command → Bool
  | select _ _ => false
  | _ => true

/-- Whether the statement looks at the database. -/
def reads : Command → Bool
  | select _ none => false
  | _ => true

end Command

/-- A command with the number of its parameters. -/
structure Prepared where
  command : Command
  parameters : Nat
  deriving DecidableEq

end EntitySession.Sqlite
