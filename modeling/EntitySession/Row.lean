import EntitySession.Text.Folding
import EntitySession.Value.Carrier

/-!
# Result rows

A row is a list of cells under a heading of column names.  Names are looked up without their case,
and of several columns with one name the last one answers.  Heading and cells may differ in length:
a name without a cell finds nothing, a cell without a name has only its position.
-/

set_option autoImplicit false

namespace EntitySession

/-- The column names of a result. -/
structure Heading where
  names : List String
  deriving DecidableEq

namespace Heading

/-- The position of the last column with a name, ignoring case. -/
def indexOf? (h : Heading) (name : String) : Option Nat :=
  let folded := Text.fold name
  let fromEnd := h.names.reverse.findIdx? fun n => Text.fold n == folded
  fromEnd.map fun i => h.names.length - 1 - i

/-- The name of the column at a position. -/
def nameAt? (h : Heading) (index : Nat) : Option String := h.names[index]?

end Heading

/-- A result row. -/
structure Row where
  heading : Heading
  cells : List Value
  deriving DecidableEq

namespace Row

/-- The row with the given column names and cells. -/
def of (names : List String) (cells : List Value) : Row := ⟨⟨names⟩, cells⟩

/-- How many cells the row has. -/
def size (r : Row) : Nat := r.cells.length

/-- The cell at a position. -/
def get? (r : Row) (index : Nat) : Option Value := r.cells[index]?

/-- The cell under a name. -/
def named? (r : Row) (name : String) : Option Value :=
  (r.heading.indexOf? name).bind r.get?

/-- The cell under a name, or else the one at a position: a database may label the columns of a
result otherwise than they were asked for. -/
def namedOrAt? (r : Row) (name : String) (position : Nat) : Option Value :=
  (r.named? name).or (r.get? position)

/-- Converts a cell through a native type. -/
def getAs (r : Row) (index : Nat) (slot : Slot) : Except Error Value :=
  match r.get? index with
  | some v => slot.pass v
  | none =>
    .error (Fault.conversion slot.longLabel
      ("index " ++ toString index ++ " out of bounds (row has " ++ toString r.size ++ " columns)")
      none).error

/-- Puts a column name into an error about a conversion. -/
def atColumn (name : String) (e : Error) : Error :=
  match e.fault with
  | .conversion expected actual _ => { e with fault := .conversion expected actual (some name) }
  | _ => e

/-- Converts the cell under a name through a native type. -/
def getNamed (r : Row) (name : String) (slot : Slot) : Except Error Value :=
  match r.named? name with
  | some v => (slot.pass v).mapError (atColumn name)
  | none =>
    .error (Fault.conversion slot.longLabel ("column '" ++ name ++ "' not found") (some name)).error

/-- The cells with their names, as far as both go. -/
def entries (r : Row) : List (String × Value) := r.heading.names.zip r.cells

end Row

end EntitySession
