import EntitySession.Mapping
import EntitySession.Value.Cast
import EntitySession.Metadata.Resolve

/-!
# Keys and snapshots

A key names an instance within a session: the type, by its name as in `EntitySession.Mapping`, and the
identifier, in the form of the declared type of the identifier field.  Snapshots are the column values of an instance at some moment:
`ColumnValue` for its simple fields and `RelationValue` for its references.

`sameRelations` compares the references of two moments without regard to their order: what is in one
list has to be in the other equally often.  It takes what it finds out of a list of those that remain,
and since their order is not looked at, the last one moves into the gap (`swapRemove`).
-/

set_option autoImplicit false

namespace EntitySession

/-- The identity of an instance within a session. -/
structure EntityKey where
  entity : String
  id : Value
  deriving Inhabited

namespace EntityKey

instance : BEq EntityKey := ⟨fun a b => a.entity == b.entity && a.id == b.id⟩

/-- Keys are the same when they name the same type and their identifiers are the same key value. -/
theorem beq_iff (a b : EntityKey) :
    (a == b) = true ↔ a.entity = b.entity ∧ a.id.folded = b.id.folded := by
  change (a.entity == b.entity && a.id == b.id) = true ↔ _
  rw [Bool.and_eq_true, beq_iff_eq, Value.beq_iff_folded]

instance : EquivBEq EntityKey where
  rfl {a} := (beq_iff a a).2 ⟨rfl, rfl⟩
  symm {a b} h :=
    let ⟨h₁, h₂⟩ := (beq_iff a b).1 h
    (beq_iff b a).2 ⟨h₁.symm, h₂.symm⟩
  trans {a b c} h₁ h₂ :=
    let ⟨p₁, p₂⟩ := (beq_iff a b).1 h₁
    let ⟨q₁, q₂⟩ := (beq_iff b c).1 h₂
    (beq_iff a c).2 ⟨p₁.trans q₁, p₂.trans q₂⟩

/-- The key as messages show it. -/
def display (k : EntityKey) : String := k.entity ++ "#" ++ k.id.display

/-- The key of a type for an identifier of any form. -/
def of (ms : Mappings) (entity : String) (id : Value) : Except Error EntityKey := do
  let m ← ms.resolve entity
  let id ← id.cast m.identifier.sqlType
  .ok ⟨entity, id⟩

end EntityKey

/-- The value of a column at some moment. -/
structure ColumnValue where
  column : String
  value : Value

instance : BEq ColumnValue := ⟨fun a b => a.column == b.column && a.value == b.value⟩

/-- The value of the join column of a reference at some moment. -/
structure RelationValue where
  /-- The type that the reference leads to. -/
  target : String
  column : String
  value : Value

instance : BEq RelationValue :=
  ⟨fun a b => a.target == b.target && a.column == b.column && a.value == b.value⟩

/-- The join column without the type that it refers to. -/
def RelationValue.toColumnValue (r : RelationValue) : ColumnValue := ⟨r.column, r.value⟩

/-- The list without the element at a position, whose place the last element takes. -/
def swapRemove {α : Type} (xs : List α) (i : Nat) : List α :=
  match xs.getLast? with
  | some last => (xs.set i last).dropLast
  | none => []

/-- Takes the elements of the first list out of the second, one for one; whether all were there. -/
def takesAll : List RelationValue → List RelationValue → Bool
  | [], _ => true
  | r :: rest, remaining =>
    match remaining.findIdx? fun other => other == r with
    | some i => takesAll rest (swapRemove remaining i)
    | none => false

/-- Whether two lists hold the same relation values equally often. -/
def sameRelations (a b : List RelationValue) : Bool := a.length == b.length && takesAll a b

end EntitySession
