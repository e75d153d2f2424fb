import EntitySession.Association

/-!
# Collections

A `Collection` is the value of a to-many association.  It begins as a share in a cell, a place that
keeps the result of the load for all the copies of the collection, so that they ask at most once
between them.  The first change gives a copy elements of its own.

A set holds each instance at most once; a list may repeat them.
-/

set_option autoImplicit false

namespace EntitySession

/-- The results of loads, by cell. -/
abbrev Cells : Type := Array (Option (List InstanceId))

/-- What a collection holds. -/
inductive Contents where
  /-- Elements of its own. -/
  | own (items : List InstanceId)
  /-- The elements of a cell, which are loaded on first access. -/
  | shared (cell : CellId) (supplier : Supplier)
  deriving DecidableEq

/-- The value of a to-many association. -/
structure Collection where
  /-- Whether it is a set. -/
  distinct : Bool
  contents : Contents
  deriving DecidableEq

namespace Collection

/-- The elements without later repetitions. -/
def withoutRepeats (items : List InstanceId) : List InstanceId := items.eraseDups

/-- The elements as a collection holds them. -/
def normalize (distinct : Bool) (items : List InstanceId) : List InstanceId :=
  if distinct then withoutRepeats items else items

/-- A collection of elements that are there. -/
def ofItems (distinct : Bool) (items : List InstanceId) : Collection :=
  ⟨distinct, .own (normalize distinct items)⟩

/-- A collection that is loaded on first access. -/
def lazy (distinct : Bool) (cell : CellId) (supplier : Supplier) : Collection :=
  ⟨distinct, .shared cell supplier⟩

/-- The collection that a binding describes, for instances of the given type. -/
def ofBinding (b : Binding) (held : String) (distinct : Bool) : Except Error Collection := do
  let expected : CollectionKind := if distinct then .set else .list
  b.checkTarget held
  match b.shape with
  | .toOne => b.refuse .referenceAsCollection
  | .collection kind =>
    if kind ≠ expected then b.refuse (.otherShape kind.describe expected.describe)
    else match b.request with
      | .byKey _ _ => b.refuse .noOwnerQuery
      | .byQuery _ => .ok (lazy distinct b.cell b.supplier)

/-- The elements if they are there. -/
def current? (cells : Cells) (c : Collection) : Option (List InstanceId) :=
  match c.contents with
  | .own items => some items
  | .shared cell _ => (cells[cell]?).join

/-- Whether no load is due. -/
def isLoaded (cells : Cells) (c : Collection) : Bool := (c.current? cells).isSome

/-- The collection with elements of its own. -/
def withItems (c : Collection) (items : List InstanceId) : Collection := { c with contents := .own items }

@[simp] theorem current?_withItems (cells : Cells) (c : Collection) (items : List InstanceId) :
    (c.withItems items).current? cells = some items := rfl

/-- The collection as it shows itself, for instances of the given type. -/
def describe (held : String) (cells : Cells) (c : Collection) : String :=
  (if c.distinct then "LazySet<" else "LazyList<") ++ held ++
    match c.current? cells with
    | some items => ">[" ++ toString items.length ++ " loaded]"
    | none => ">[unloaded]"

end Collection

/-! ## Changes

A change takes the present elements to the new ones and answers something about them. -/

namespace Change

/-- Appends an element. -/
def push (x : InstanceId) (items : List InstanceId) : List InstanceId × Unit := (items ++ [x], ())

/-- Appends an element that is not there yet; whether it was new. -/
def insert (x : InstanceId) (items : List InstanceId) : List InstanceId × Bool :=
  if items.contains x then (items, false) else (items ++ [x], true)

/-- Removes the first occurrence of an element; whether there was one. -/
def remove (x : InstanceId) (items : List InstanceId) : List InstanceId × Bool :=
  if items.contains x then (items.erase x, true) else (items, false)

/-- What is kept of some elements when they are asked about one after another, once those in `asked`
have been, the last one first.  What is said of an element may depend on what was asked before. -/
def kept (keep : List InstanceId → InstanceId → Bool) :
    List InstanceId → List InstanceId → List InstanceId
  | _, [] => []
  | asked, x :: items =>
    let rest := kept keep (x :: asked) items
    if keep asked x then x :: rest else rest

theorem kept_sublist (keep : List InstanceId → InstanceId → Bool) (asked items : List InstanceId) :
    (kept keep asked items).Sublist items := by
  induction items generalizing asked with
  | nil => exact .slnil
  | cons x items ih =>
    rw [kept]
    split
    · exact (ih _).cons_cons x
    · exact (ih _).cons x

/-- If what was asked before makes no difference, those are kept that have the property. -/
@[simp] theorem kept_const (keep : InstanceId → Bool) (asked items : List InstanceId) :
    kept (fun _ => keep) asked items = items.filter keep := by
  induction items generalizing asked with
  | nil => rfl
  | cons x items ih => rw [kept, ih, List.filter_cons]

/-- Keeps the elements that are said to be kept. -/
def retain (keep : List InstanceId → InstanceId → Bool) (items : List InstanceId) :
    List InstanceId × Unit :=
  (kept keep [] items, ())

/-- Removes all elements. -/
def clear (_ : List InstanceId) : List InstanceId × Unit := ([], ())

end Change

end EntitySession
