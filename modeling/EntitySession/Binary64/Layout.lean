import EntitySession.Binary64.Shortest

/-!
# Writing a double

A `Layout` says how the digits of `Binary64.shortest` become text: for which positions of the
decimal point the number is written out in full, what ends a whole number, which way a tie between
two equally near decimals goes, and what stands for the values that are not finite.

Two layouts are used.  `Layout.plain` writes every number in full and is the text of a double in
messages and in decimals; `Layout.document` is the number syntax of JSON documents.
-/

set_option autoImplicit false

namespace EntitySession

namespace Binary64

/-- The decisions that turn the shortest digits of a double into text. -/
structure Layout where
  /-- The positions of the decimal point for which no exponent is written. -/
  positional : Int → Bool
  /-- What follows a whole number that is written in full. -/
  wholeEnding : String
  /-- The choice between two equally near decimals. -/
  tie : Tie
  /-- The text of NaN. -/
  nanText : String
  /-- The text of positive infinity and of negative infinity. -/
  infinityText : Bool → String

/-- A run of zeros. -/
def zeros (n : Nat) : String := String.ofList (List.replicate n '0')

/-- The digits with the decimal point put in its place and no exponent. -/
def writtenOut (wholeEnding : String) (digits : List Char) (point : Int) : String :=
  if point ≤ 0 then "0." ++ zeros (-point).toNat ++ String.ofList digits
  else if digits.length ≤ point.toNat then
    String.ofList digits ++ zeros (point.toNat - digits.length) ++ wholeEnding
  else
    String.ofList (digits.take point.toNat) ++ "." ++ String.ofList (digits.drop point.toNat)

/-- One digit before the decimal point, the others behind it, and an exponent with its sign. -/
def withExponent (digits : List Char) (point : Int) : String :=
  let tail := digits.drop 1
  String.ofList (digits.take 1) ++ (if tail.isEmpty then "" else "." ++ String.ofList tail)
    ++ (if point ≤ 0 then "e" else "e+") ++ toString (point - 1)

/-- The text of a double in a layout. -/
def Layout.render (layout : Layout) (x : Binary64) : String :=
  if x.isNaN then layout.nanText
  else if x.isInfinite then layout.infinityText x.isNegative
  else
    let sign := if x.isNegative then "-" else ""
    if x.isZero then sign ++ "0" ++ layout.wholeEnding
    else
      let d := x.shortest layout.tie
      let digits := Nat.toDigits 10 d.digits
      if layout.positional d.point then sign ++ writtenOut layout.wholeEnding digits d.point
      else sign ++ withExponent digits d.point

/-- Every number is written in full, a whole number without a point, and a tie goes upward. -/
def Layout.plain : Layout where
  positional _ := true
  wholeEnding := ""
  tie := .away
  nanText := "NaN"
  infinityText negative := if negative then "-inf" else "inf"

/-- A whole number ends in `.0`, an exponent is written from 10¹⁶ upward and below 10⁻⁵ and has a sign
either way, a tie goes to the even digit, and a document has only `null` for what is not finite. -/
def Layout.document : Layout where
  positional point := decide (-5 < point) && decide (point ≤ 16)
  wholeEnding := ".0"
  tie := .toEven
  nanText := "null"
  infinityText _ := "null"

end Binary64

end EntitySession
