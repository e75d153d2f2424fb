import EntitySession.Json.Document
import EntitySession.SqlType
import EntitySession.Value

/-!
# Values in documents

A value is written as an object with one member, whose name is the kind of the value:
`{"Int":5}`, `{"Bytes":[1,2]}`; NULL is the string `"Null"`.  Reading does not convert between kinds,
except that a whole number is taken for a double.  A kind without contents, NULL or a declared type,
may also be read from an object whose only member is `null`.
-/

set_option autoImplicit false

namespace EntitySession

namespace Json

namespace Document

/-- The text of a well-formed string. -/
def text? : Document → Option String
  | string s => plain? s
  | _ => none

/-- A truth value. -/
def bool? : Document → Option Bool
  | bool b => some b
  | _ => none

/-- A whole number between two bounds. -/
def intBetween? (low high : Int) : Document → Option Int
  | number n => n.toInt?.filter fun i => low ≤ i && i ≤ high
  | _ => none

/-- A number as a double. -/
def binary64? : Document → Option Binary64
  | number n => n.toBinary64?
  | _ => none

/-- An array of bytes. -/
def bytes? : Document → Option (List UInt8)
  | array items => items.mapM fun d => (d.intBetween? 0 255).map fun i => UInt8.ofNat i.toNat
  | _ => none

/-- The name of an alternative with its contents: a string is an alternative without contents, and
an object with one member one that has them. -/
def alternative? : Document → Option (String × Option Document)
  | string s => (plain? s).map fun name => (name, none)
  | object [(name, contents)] => (plain? name).map fun name => (name, some contents)
  | _ => none

/-- Whether an alternative has no contents. -/
def isUnit : Option Document → Bool
  | none | some null => true
  | _ => false

end Document

end Json

namespace SqlType

/-- The declared type that a document names. -/
def ofDocument? (d : Json.Document) : Option SqlType :=
  match d.alternative? with
  | some (name, contents) => if Json.Document.isUnit contents then ofTag? name else none
  | none => none

/-- The document text of a declared type. -/
def documentText (t : SqlType) : String := Json.quote t.tag

end SqlType

namespace Value

/-- The value that a document holds. -/
def ofDocument? (d : Json.Document) : Option Value :=
  match d.alternative? with
  | none => none
  | some ("Null", contents) => if Json.Document.isUnit contents then some null else none
  | some (_, none) => none
  | some (name, some contents) =>
    match name with
    | "Bool" => contents.bool?.map bool
    | "SmallInt" => (contents.intBetween? (-32768) 32767).map fun n => smallInt (Int16.ofInt n)
    | "Int" => (contents.intBetween? (-2147483648) 2147483647).map fun n => int (Int32.ofInt n)
    | "BigInt" => (contents.intBetween? (-9223372036854775808) 9223372036854775807).map fun n => bigInt (Int64.ofInt n)
    | "Double" => contents.binary64?.map double
    | "Decimal" => contents.text?.map decimal
    | "Text" => contents.text?.map text
    | "Bytes" => contents.bytes?.map bytes
    | _ => none

/-- The value that a text writes. -/
def ofDocumentText? (s : String) : Option Value := (Json.Document.read? s).bind ofDocument?

/-- An object with one member, as text. -/
def memberText (name contents : String) : String :=
  "\x7b" ++ Json.quote name ++ ":" ++ contents ++ "\x7d"

/-- The document text of a value. -/
def documentText : Value → String
  | null => Json.quote "Null"
  | bool b => memberText "Bool" (if b then "true" else "false")
  | smallInt n => memberText "SmallInt" (toString n.toInt)
  | int n => memberText "Int" (toString n.toInt)
  | bigInt n => memberText "BigInt" (toString n.toInt)
  | double x => memberText "Double" (Binary64.Layout.document.render x)
  | decimal s => memberText "Decimal" (Json.quote s)
  | text s => memberText "Text" (Json.quote s)
  | bytes b => memberText "Bytes" ("[" ++ ",".intercalate (b.map fun x => toString x.toNat) ++ "]")

end Value

end EntitySession
