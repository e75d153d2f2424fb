import EntitySession.Binary64.Layout
import EntitySession.Binary64.Reading

/-!
# Values

A `Value` is what moves between an entity and the database: a statement parameter, a cell of a
result row, the state of a field, an identifier.  Nine kinds are told apart, and a whole number of
one width is a different value from the same number of another.

Values serve as keys, so `==` has to be total.  It compares within a kind, doubles by
`Binary64.folded`: the two zeros are one key, and so are all NaNs.  `Value.hashed` is the sequence
that a hash is computed from.

The readings `asBool?`, `asInt?`, `asDouble?`, `asText?` and `asBytes?` look at a value as something
else where that loses nothing but its kind.
-/

set_option autoImplicit false

namespace EntitySession

/-- A dynamically typed SQL value. -/
inductive Value where
  | null
  | bool (b : Bool)
  | smallInt (n : Int16)
  | int (n : Int32)
  | bigInt (n : Int64)
  | double (x : Binary64)
  /-- An exact decimal, kept as the text that was given. -/
  | decimal (s : String)
  | text (s : String)
  | bytes (b : List UInt8)
  deriving DecidableEq, Inhabited

namespace Value

/-! ## Kinds -/

/-- Whether the value is NULL. -/
def isNull : Value → Bool
  | null => true
  | _ => false

@[simp] theorem isNull_iff (v : Value) : v.isNull = true ↔ v = null := by
  cases v <;> simp [isNull]

/-- The name of the value's kind. -/
def kindName : Value → String
  | null => "NULL"
  | bool _ => "BOOLEAN"
  | smallInt _ => "SMALLINT"
  | int _ => "INTEGER"
  | bigInt _ => "BIGINT"
  | double _ => "DOUBLE"
  | decimal _ => "DECIMAL"
  | text _ => "TEXT"
  | bytes _ => "BLOB"

/-! ## Readings -/

/-- The value as a truth value; a whole number is true when it is not 0. -/
def asBool? : Value → Option Bool
  | bool b => some b
  | smallInt n => some (n != 0)
  | int n => some (n != 0)
  | bigInt n => some (n != 0)
  | _ => none

/-- The value as a whole number; true is 1 and false is 0. -/
def asInt? : Value → Option Int
  | smallInt n => some n.toInt
  | int n => some n.toInt
  | bigInt n => some n.toInt
  | bool b => some (if b then 1 else 0)
  | _ => none

/-- The value as a double; a whole number or a decimal gives the nearest one. -/
def asDouble? : Value → Option Binary64
  | double x => some x
  | smallInt n => some (.ofInt n.toInt)
  | int n => some (.ofInt n.toInt)
  | bigInt n => some (.ofInt n.toInt)
  | decimal s => Binary64.read? s
  | _ => none

/-- The characters of a text or a decimal. -/
def asText? : Value → Option String
  | text s | decimal s => some s
  | _ => none

/-- The bytes of a blob. -/
def asBytes? : Value → Option (List UInt8)
  | bytes b => some b
  | _ => none

/-! ## Text -/

/-- The value as messages show it: a text in quotes, a blob by its size. -/
def display : Value → String
  | null => "NULL"
  | bool b => if b then "true" else "false"
  | smallInt n => toString n.toInt
  | int n => toString n.toInt
  | bigInt n => toString n.toInt
  | double x => Binary64.Layout.plain.render x
  | decimal s => s
  | text s => "'" ++ s ++ "'"
  | bytes b => "<" ++ toString b.length ++ " bytes>"

/-! ## Values as keys -/

/-- Whether two values are the same key. -/
def same : Value → Value → Bool
  | null, null => true
  | bool a, bool b => a == b
  | smallInt a, smallInt b => a == b
  | int a, int b => a == b
  | bigInt a, bigInt b => a == b
  | double a, double b => a.folded == b.folded
  | decimal a, decimal b => a == b
  | text a, text b => a == b
  | bytes a, bytes b => a == b
  | _, _ => false

instance : BEq Value := ⟨same⟩

/-- The representative of a value among those that are the same key. -/
def folded : Value → Value
  | double x => double x.folded
  | v => v

/-- Being the same key is having the same representative. -/
theorem beq_iff_folded (a b : Value) : (a == b) = true ↔ a.folded = b.folded := by
  change same a b = true ↔ _
  cases a <;> cases b <;> simp [same, folded]

instance : EquivBEq Value where
  rfl {a} := (beq_iff_folded a a).2 rfl
  symm {a b} h := (beq_iff_folded b a).2 ((beq_iff_folded a b).1 h).symm
  trans {a b c} h₁ h₂ :=
    (beq_iff_folded a c).2 (((beq_iff_folded a b).1 h₁).trans ((beq_iff_folded b c).1 h₂))

/-- One step of computing a hash. -/
inductive HashStep where
  | kind (n : UInt8)
  | bool (b : Bool)
  | int16 (n : Int16)
  | int32 (n : Int32)
  | int64 (n : Int64)
  | word (w : UInt64)
  | text (s : String)
  | bytes (b : List UInt8)
  deriving DecidableEq

/-- What a hash is computed from: the kind first, then the contents, doubles by their
representative. -/
def hashed : Value → List HashStep
  | null => [.kind 0]
  | bool b => [.kind 1, .bool b]
  | smallInt n => [.kind 2, .int16 n]
  | int n => [.kind 3, .int32 n]
  | bigInt n => [.kind 4, .int64 n]
  | double x => [.kind 5, .word x.folded.bits]
  | decimal s => [.kind 6, .text s]
  | text s => [.kind 7, .text s]
  | bytes b => [.kind 8, .bytes b]

/-- For each value of a list, the position of the first value that is the same key. -/
def firstPositions (vs : List Value) : List Nat := vs.map fun v => vs.findIdx (· == v)

/-- How many different keys a list holds. -/
def distinctCount (vs : List Value) : Nat := vs.eraseDups.length

end Value

end EntitySession
