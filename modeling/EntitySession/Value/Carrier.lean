import EntitySession.Error

/-!
# Values and native types

A `Carrier` is a native type in which an entity holds a field: a truth value, a whole number of some
width, a double, a string or bytes.  Native data goes into a value by `Carrier.toValue` and comes
back by `Carrier.ofValue`, which is more lenient than a cast to the column type: a string is also
taken from a decimal, and bytes are also taken from a text.

A carrier may be optional; then NULL is the absent element, and nothing else is.
-/

set_option autoImplicit false

namespace EntitySession

/-- A native type that values convert to. -/
inductive Carrier where
  | bool
  | int16
  | int32
  | int64
  | double
  | string
  | bytes
  deriving DecidableEq

namespace Carrier

/-- The data of a carrier. -/
abbrev Data : Carrier → Type
  | bool => Bool
  | int16 => Int16
  | int32 => Int32
  | int64 => Int64
  | double => Binary64
  | string => String
  | bytes => List UInt8

/-- The name of a carrier in conversion errors. -/
def label : Carrier → String
  | bool => "bool"
  | int16 => "i16"
  | int32 => "i32"
  | int64 => "i64"
  | double => "f64"
  | string => "String"
  | bytes => "Vec<u8>"

/-- The name of a carrier in errors about a missing cell. -/
def longLabel : Carrier → String
  | string => "alloc::string::String"
  | bytes => "alloc::vec::Vec<u8>"
  | c => c.label

/-- The data that a field starts with. -/
def initial : (c : Carrier) → c.Data
  | bool => false
  | int16 => (0 : Int16)
  | int32 => (0 : Int32)
  | int64 => (0 : Int64)
  | double => Binary64.zero
  | string => ""
  | bytes => []

/-- Native data as a value. -/
def toValue : (c : Carrier) → c.Data → Value
  | bool, b => .bool b
  | int16, n => .smallInt n
  | int32, n => .int n
  | int64, n => .bigInt n
  | double, x => .double x
  | string, s => .text s
  | bytes, b => .bytes b

/-- The native data in a value, if the carrier can hold it. -/
def ofValue? : (c : Carrier) → Value → Option c.Data
  | bool, v => v.asBool?
  | int16, v => v.asInt?.bind fun n =>
    if -32768 ≤ n ∧ n < 32768 then some (Int16.ofInt n) else none
  | int32, v => v.asInt?.bind fun n =>
    if -2147483648 ≤ n ∧ n < 2147483648 then some (Int32.ofInt n) else none
  | int64, v => v.asInt?.map Int64.ofInt
  | double, v => v.asDouble?
  | string, v => v.asText?
  | bytes, v =>
    match v with
    | .bytes b => some b
    | .text s => some s.toUTF8.toList
    | _ => none

/-- The native data in a value. -/
def ofValue (c : Carrier) (v : Value) : Except Error c.Data :=
  match c.ofValue? v with
  | some x => .ok x
  | none => .error (Fault.conversion c.label v.kindName none).error

/-- What is put in comes out again. -/
theorem ofValue_toValue (c : Carrier) (x : c.Data) : c.ofValue (c.toValue x) = .ok x := by
  cases c with
  | int16 =>
    have h : -32768 ≤ Int16.toInt x ∧ Int16.toInt x < 32768 := ⟨Int16.le_toInt x, Int16.toInt_lt x⟩
    simp [ofValue, ofValue?, toValue, Value.asInt?, if_pos h]
  | int32 =>
    have h : -2147483648 ≤ Int32.toInt x ∧ Int32.toInt x < 2147483648 :=
      ⟨Int32.le_toInt x, Int32.toInt_lt x⟩
    simp [ofValue, ofValue?, toValue, Value.asInt?, if_pos h]
  | int64 => simp [ofValue, ofValue?, toValue, Value.asInt?]
  | _ => rfl

/-- Native data that may be absent, as a value. -/
def toValueOption (c : Carrier) : Option c.Data → Value
  | none => .null
  | some x => c.toValue x

/-- The native data in a value, absent for NULL. -/
def ofValueOption (c : Carrier) (v : Value) : Except Error (Option c.Data) :=
  if v.isNull then .ok none else (c.ofValue v).map some

end Carrier

/-- A carrier whose data may be absent. -/
structure Slot where
  carrier : Carrier
  /-- Whether NULL is accepted as the absent element. -/
  optional : Bool
  deriving DecidableEq

namespace Slot

/-- The name of a slot in errors about a missing cell. -/
def longLabel (s : Slot) : String :=
  if s.optional then "core::option::Option<" ++ s.carrier.longLabel ++ ">" else s.carrier.longLabel

/-- What a value becomes by going through the native type of the slot. -/
def pass (s : Slot) (v : Value) : Except Error Value :=
  if s.optional then (s.carrier.ofValueOption v).map s.carrier.toValueOption
  else (s.carrier.ofValue v).map s.carrier.toValue

/-- The value of the data that a slot starts with. -/
def initial (s : Slot) : Value :=
  if s.optional then s.carrier.toValueOption none else s.carrier.toValue s.carrier.initial

end Slot

end EntitySession
