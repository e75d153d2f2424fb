import EntitySession.Error

/-!
# Casting a value to a declared type

`Value.cast` brings a value into the form of a declared column type.  NULL has every type.  A whole
number or a truth value becomes a whole number of the declared width when it lies in its range
(`Value.smallIntOf?` and its siblings), so an identifier has one form whatever width it was given in.
Text and blobs take nothing but themselves.

What does not fit is an error that shows the value.
-/

set_option autoImplicit false

namespace EntitySession

namespace Value

/-- The number as a value of sixteen bits, if it is in range. -/
def smallIntOf? (n : Int) : Option Value :=
  if -32768 ≤ n ∧ n < 32768 then some (smallInt (Int16.ofInt n)) else none

/-- The number as a value of thirty-two bits, if it is in range. -/
def intOf? (n : Int) : Option Value :=
  if -2147483648 ≤ n ∧ n < 2147483648 then some (int (Int32.ofInt n)) else none

/-- The number as a value of sixty-four bits, if it is in range. -/
def bigIntOf? (n : Int) : Option Value :=
  if -9223372036854775808 ≤ n ∧ n < 9223372036854775808 then some (bigInt (Int64.ofInt n)) else none

/-- The form that a value other than NULL takes in a declared type. -/
def castTo? (t : SqlType) (v : Value) : Option Value :=
  match t with
  | .boolean => v.asBool?.map bool
  | .smallInt => v.asInt?.bind smallIntOf?
  | .integer => v.asInt?.bind intOf?
  | .bigInt => v.asInt?.bind bigIntOf?
  | .double => v.asDouble?.map double
  | .decimal =>
    match v with
    | decimal s => some (decimal s)
    | double x => some (decimal (Binary64.Layout.plain.render x))
    | v => v.asInt?.map fun n => decimal (toString n)
  | .text => match v with | text s => some (text s) | _ => none
  | .blob => match v with | bytes b => some (bytes b) | _ => none

/-- The value in the form of a declared type. -/
def cast (t : SqlType) (v : Value) : Except Error Value :=
  if v.isNull then .ok null
  else match v.castTo? t with
    | some w => .ok w
    | none =>
      .error (Fault.conversion t.sqlName (v.kindName ++ " (" ++ v.display ++ ")") none).error

@[simp] theorem cast_null (t : SqlType) : cast t null = .ok null := rfl

end Value

end EntitySession
