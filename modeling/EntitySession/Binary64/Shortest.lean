import EntitySession.Binary64

/-!
# The shortest decimal that reads back

A finite double stands for every real number that rounds to it.  `shortest` picks, among the
decimals in that interval, one with as few digits as possible and, of those, the nearest to the
double.  The search goes over the decimal grids of 1, 2, … 17 significant digits: if a grid has a
point in the interval, then one of the two grid points next to the double itself is in it, so only
those two are tried (`gridPoint`).  Where both are equally near, the caller's `Tie` decides.

All of it is arithmetic on naturals, in units of a quarter of the smallest subnormal so that the
middle between two neighbours is a whole number.
-/

set_option autoImplicit false

namespace EntitySession

namespace Binary64

/-- Which of two equally near decimals is taken. -/
inductive Tie where
  /-- The larger one. -/
  | away
  /-- The one with the even last digit. -/
  | toEven
  deriving DecidableEq

/-- A positive decimal: the number `0.d₁d₂… · 10 ^ point`, with the digits written as one natural. -/
structure Decimal where
  /-- The significant digits. -/
  digits : Nat
  /-- How many of the digits stand before the decimal point. -/
  point : Int
  deriving DecidableEq

/-- The reals that round to a finite double, in quarters of the smallest subnormal. -/
structure Interval where
  low : Nat
  middle : Nat
  high : Nat
  /-- Whether the two ends belong to the interval. -/
  closed : Bool

/-- The interval of a double.  Below a power of two the next double is half as far away; the ends
round to the double exactly when its significand is even. -/
def interval (x : Binary64) : Interval :=
  let unit := twoTo x.scale
  let below := if x.fractionField = 0 ∧ 1 < x.exponentField then 1 else 2
  { low := (4 * x.significand - below) * unit
    middle := 4 * x.significand * unit
    high := (4 * x.significand + 2) * unit
    closed := x.significand % 2 == 0 }

/-- Whether `num / den` lies in the interval. -/
def Interval.contains (i : Interval) (num den : Nat) : Bool :=
  if i.closed then decide (i.low * den ≤ num) && decide (num ≤ i.high * den)
  else decide (i.low * den < num) && decide (num < i.high * den)

/-- The number of decimal digits of a natural; 0 has none. -/
def digitCount (n : Nat) : Nat := if n = 0 then 0 else (Nat.toDigits 10 n).length

/-- How many places to shift a fraction below 1 until its first digit stands before the point. -/
def leadingZeros (num den : Nat) : Nat → Nat
  | 0 => 0
  | fuel + 1 => if den ≤ 10 * num then 0 else leadingZeros (10 * num) den fuel + 1

/-- The position of the decimal point in `num / den` when its digits are written from the first
nonzero one. -/
def pointOf (num den : Nat) : Int :=
  if den ≤ num then digitCount (num / den) else -(leadingZeros num den 400 : Int)

/-- The nearest point of a decimal grid that lies in the interval, `step = numStep / denStep` being
the distance of neighbouring points. -/
def gridPoint (tie : Tie) (i : Interval) (numStep denStep : Nat) : Option Nat :=
  let below := i.middle * denStep / numStep
  let above := below + 1
  let hit (n : Nat) : Bool := i.contains (n * numStep) denStep
  match hit below, hit above with
  | false, false => none
  | true, false => some below
  | false, true => some above
  | true, true =>
    let downward := i.middle * denStep - below * numStep
    let upward := above * numStep - i.middle * denStep
    if downward < upward then some below
    else if upward < downward then some above
    else match tie with
      | .away => some above
      | .toEven => some (if below % 2 = 0 then below else above)

/-- The first grid, of at least `count` digits, with a point in the interval. -/
def firstGrid (tie : Tie) (i : Interval) (point : Int) (count : Nat) : Nat → Decimal
  | 0 => ⟨0, 0⟩
  | fuel + 1 =>
    let exponent := point - count
    let unit := twoTo 1076
    let found :=
      if 0 ≤ exponent then gridPoint tie i (tenTo exponent.toNat * unit) 1
      else gridPoint tie i unit (tenTo (-exponent).toNat)
    match found with
    | some n => ⟨n, exponent + digitCount n⟩
    | none => firstGrid tie i point (count + 1) fuel

/-- A natural without its trailing zeros. -/
def dropZeros (n : Nat) : Nat → Nat
  | 0 => n
  | fuel + 1 => if n % 10 = 0 then dropZeros (n / 10) fuel else n

/-- The shortest decimal that rounds to a finite double other than zero. -/
def shortest (tie : Tie) (x : Binary64) : Decimal :=
  let i := x.interval
  let found := firstGrid tie i (pointOf i.middle (twoTo 1076)) 1 17
  ⟨dropZeros found.digits 17, found.point⟩

end Binary64

end EntitySession
