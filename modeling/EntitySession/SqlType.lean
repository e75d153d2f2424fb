/-!
# Declared column types

Every mapped field declares one of eight types.  The declared type of an identifier decides the
form that keys take, and every column descriptor carries the SQL name of its type.
-/

set_option autoImplicit false

namespace EntitySession

/-- The declared type of a mapped field. -/
inductive SqlType where
  | boolean
  | smallInt
  | integer
  | bigInt
  | double
  | decimal
  | text
  | blob
  deriving DecidableEq, Inhabited

namespace SqlType

/-- The declared types in their standing order. -/
def all : List SqlType := [boolean, smallInt, integer, bigInt, double, decimal, text, blob]

/-- The name of the type in a column descriptor. -/
def sqlName : SqlType → String
  | boolean => "BOOLEAN"
  | smallInt => "SMALLINT"
  | integer => "INTEGER"
  | bigInt => "BIGINT"
  | double => "DOUBLE PRECISION"
  | decimal => "DECIMAL"
  | text => "VARCHAR"
  | blob => "BLOB"

/-- Whether the values of the type are whole numbers of a fixed width. -/
def isIntegral : SqlType → Bool
  | smallInt | integer | bigInt => true
  | _ => false

/-- The name of the type in documents. -/
def tag : SqlType → String
  | boolean => "Boolean"
  | smallInt => "SmallInt"
  | integer => "Integer"
  | bigInt => "BigInt"
  | double => "Double"
  | decimal => "Decimal"
  | text => "Text"
  | blob => "Blob"

/-- The type with a given document name. -/
def ofTag? (name : String) : Option SqlType := all.find? fun t => t.tag == name

end SqlType

end EntitySession
