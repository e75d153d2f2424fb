import EntitySession.Value

/-!
# Stored cells

SQLite stores a cell in one of five classes.  `Cell.ofValue` says how a value is stored when it is
bound to a statement, and `Cell.toValue` what is read back: truth values are stored as numbers and
decimals as texts, a NaN is stored as NULL, and a whole number comes back in the narrower of two
widths.  The kinds that are lost this way are restored by a cast to the declared type.

Cells are ordered by class first: NULL, then the numbers, then texts, then blobs.  Numbers are compared
by what they are worth, whichever way they are stored.
-/

set_option autoImplicit false

namespace EntitySession.Sqlite

/-- A stored cell. -/
inductive Cell where
  | null
  | integer (n : Int64)
  | real (x : Binary64)
  | text (s : String)
  | blob (b : List UInt8)
  deriving DecidableEq, Inhabited

namespace Cell

/-- Whether the cell is NULL. -/
def isNull : Cell → Bool
  | null => true
  | _ => false

/-! ## Binding and reading -/

/-- How a value is stored. -/
def ofValue : Value → Cell
  | .null => null
  | .bool b => integer (if b then 1 else 0)
  | .smallInt n => integer n.toInt64
  | .int n => integer n.toInt64
  | .bigInt n => integer n
  | .double x => if x.isNaN then null else real x
  | .decimal s => text s
  | .text s => text s
  | .bytes b => blob b

/-- What is read from a cell. -/
def toValue : Cell → Value
  | null => .null
  | integer n =>
    if -2147483648 ≤ n.toInt ∧ n.toInt < 2147483648 then .int (Int32.ofInt n.toInt) else .bigInt n
  | real x => .double x
  | text s => .text s
  | blob b => .bytes b

/-! ## Order -/

/-- The place of a class in the order. -/
def rank : Cell → Nat
  | null => 0
  | integer _ | real _ => 1
  | text _ => 2
  | blob _ => 3

/-- What a number is worth, counted in the smallest positive double. -/
def worth : Cell → Int
  | integer n => n.toInt * twoTo 1074
  | real x => x.signedMagnitude
  | _ => 0

/-- Whether one cell comes before another or is equally placed. -/
def le (a b : Cell) : Bool :=
  if a.rank != b.rank then decide (a.rank ≤ b.rank)
  else match a, b with
    | text s, text t => decide (s ≤ t)
    | blob s, blob t => decide (s ≤ t)
    | _, _ => decide (a.worth ≤ b.worth)

/-- Whether two cells are equal to a statement.  NULL is equal to nothing. -/
def equals (a b : Cell) : Bool := !a.isNull && !b.isNull && a.le b && b.le a

end Cell

end EntitySession.Sqlite
