import EntitySession.Binary64

/-!
# Reading a double from decimal text

The text is an optional sign followed by `inf`, `infinity` or `nan` in any case, or by decimal
digits with an optional point among or around them and an optional exponent.  At least one digit
must stand before the exponent, and nothing may surround the number.  The answer is the double
nearest to the number written; one that is too large reads as an infinity.
-/

set_option autoImplicit false

namespace EntitySession

namespace Binary64

/-- Whether a character is one of the ten ASCII digits. -/
def isDigit (c : Char) : Bool := '0' ≤ c && c ≤ '9'

/-- The number that a list of decimal digits writes. -/
def ofDigits (cs : List Char) : Nat := cs.foldl (fun n c => 10 * n + (c.toNat - '0'.toNat)) 0

/-- An optional sign: whether it was a minus, and what follows. -/
def readSign : List Char → Bool × List Char
  | '-' :: rest => (true, rest)
  | '+' :: rest => (false, rest)
  | cs => (false, cs)

/-- The exponent that ends a number: nothing, or `e` with a signed run of digits up to the end. -/
def readExponent : List Char → Option Int
  | [] => some 0
  | c :: rest =>
    if c = 'e' ∨ c = 'E' then
      let (negative, digits) := readSign rest
      if digits.isEmpty || !digits.all isDigit then none
      else some (if negative then -(ofDigits digits : Int) else ofDigits digits)
    else none

/-- A number without its sign. -/
def readMagnitude (negative : Bool) (cs : List Char) : Option Binary64 :=
  let whole := cs.takeWhile isDigit
  let rest := cs.dropWhile isDigit
  let (fraction, rest) := match rest with
    | '.' :: tail => (tail.takeWhile isDigit, tail.dropWhile isDigit)
    | _ => ([], rest)
  if whole.isEmpty && fraction.isEmpty then none
  else (readExponent rest).map fun exponent =>
    ofDecimal negative (ofDigits (whole ++ fraction)) (exponent - fraction.length)

/-- The double that a text writes, if it is a number. -/
def read? (text : String) : Option Binary64 :=
  let (negative, cs) := readSign text.toList
  let word := String.ofList (cs.map Char.toLower)
  if word = "inf" ∨ word = "infinity" then some (infinity negative)
  else if word = "nan" then some (if negative then nan.neg else nan)
  else readMagnitude negative cs

end Binary64

end EntitySession
