import EntitySession.Value

/-!
# Statements

The five statements that are ever sent for an entity.  A `Statement` consists of names; values occur
in it only as placeholders, and `Statement.placeholders` says how many there are.
-/

set_option autoImplicit false

namespace EntitySession

/-- A statement about the rows of an entity type. -/
inductive Statement where
  /-- The rows with a value in a column. -/
  | select (columns : List String) (table column : String)
  /-- The rows that a join table links to an owner. -/
  | selectLinked (columns : List String) (table links idColumn inverseColumn joinColumn : String)
  | insert (table : String) (columns : List String)
  | update (table : String) (columns : List String) (idColumn : String)
  | delete (table idColumn : String)
  deriving DecidableEq

namespace Statement

/-- The names, with commas between them. -/
def commas (names : List String) : String := ", ".intercalate names

/-- The text of a statement. -/
def render : Statement → String
  | select columns table column =>
    "SELECT " ++ commas columns ++ " FROM " ++ table ++ " WHERE " ++ column ++ " = ?"
  | selectLinked columns table links idColumn inverseColumn joinColumn =>
    "SELECT " ++ commas (columns.map fun c => "t." ++ c) ++ " FROM " ++ table ++ " t INNER JOIN "
      ++ links ++ " j ON t." ++ idColumn ++ " = j." ++ inverseColumn
      ++ " WHERE j." ++ joinColumn ++ " = ?"
  | insert table columns =>
    "INSERT INTO " ++ table ++ " (" ++ commas columns ++ ") VALUES ("
      ++ commas (columns.map fun _ => "?") ++ ")"
  | update table columns idColumn =>
    "UPDATE " ++ table ++ " SET " ++ commas (columns.map fun c => c ++ " = ?")
      ++ " WHERE " ++ idColumn ++ " = ?;"
  | delete table idColumn => "DELETE FROM " ++ table ++ " WHERE " ++ idColumn ++ " = ?"

/-- How many values a statement takes. -/
def placeholders : Statement → Nat
  | select _ _ _ | selectLinked _ _ _ _ _ _ | delete _ _ => 1
  | insert _ columns => columns.length
  | update _ columns _ => columns.length + 1

/-- The names in a statement. -/
def names : Statement → List String
  | select columns table column => table :: column :: columns
  | selectLinked columns table links idColumn inverseColumn joinColumn =>
    table :: links :: idColumn :: inverseColumn :: joinColumn :: columns
  | insert table columns => table :: columns
  | update table columns idColumn => table :: idColumn :: columns
  | delete table idColumn => [table, idColumn]

end Statement

end EntitySession
