import EntitySession.Entity
import EntitySession.Proofs.Results

/-!
# What becomes of bindings

A binding is made for every association of a row, and the container that is to hold the association takes
it or refuses it.  Both are said here as equivalences: an association without a column has a binding unless
it is a collection of an unknown kind (`Binding.inverse_eq_ok`), and a container takes a binding that has
its target and its shape, a reference only if the target can be instantiated
(`Reference.ofBinding_eq_ok`, `Collection.ofBinding_eq_ok`).

What it then holds is loaded as the binding says, or is nothing.
-/

set_option autoImplicit false

namespace EntitySession

variable {b : Binding} {held : String}

/-- The shape of an association without a column, unless it is a collection of an unknown kind. -/
def InverseAssociation.shape? (a : InverseAssociation) : Option Shape :=
  if a.kind.isToOne then some .toOne
  else match a.collection with
    | .other _ => none
    | kind => some (.collection kind)

/-- An association without a column is bound in its own shape, and asks for the targets of its owner. -/
theorem Binding.inverse_eq_ok {owner : String} {a : InverseAssociation} {ownerId : Value}
    {loader : Loader} {fault : Option InstantiationFault} {cell : CellId} :
    Binding.inverse owner a ownerId loader fault cell = .ok b ↔
      ∃ shape, a.shape? = some shape ∧ b = ⟨owner, a.field, a.target, shape,
        .byQuery ⟨a.target, a.source, ownerId⟩, loader, fault, cell⟩ := by
  rw [Binding.inverse.eq_def, InverseAssociation.shape?]
  by_cases htoOne : a.kind.isToOne = true
  · simp [htoOne, eq_comm]
  · cases a.collection <;> simp [htoOne, eq_comm]

/-- A target is accepted, and what comes after it succeeds, if it is the one of the binding. -/
theorem Binding.checkTarget_bind_eq_ok {α : Type} {f : Unit → Except Error α} {a : α} :
    (b.checkTarget held >>= f) = .ok a ↔ b.target = held ∧ f () = .ok a := by
  rw [checkTarget, bind_eq_ok]
  split
  · next h => exact ⟨fun ⟨_, _, hf⟩ => ⟨h, hf⟩, fun hf => ⟨(), rfl, hf.2⟩⟩
  · next h => exact ⟨nofun, fun hf => absurd hf.1 h⟩

/-- The reference that a binding is turned into. -/
def Binding.toReference (b : Binding) : Reference :=
  match b.request with
  | .byKey _ key => if key.isNull then .empty else .unloaded key none b.supplier
  | .byQuery _ => .unloaded .null none b.supplier

/-- A reference takes bindings of its shape whose target it holds, if this has instances at all. -/
theorem Reference.ofBinding_eq_ok {r : Reference} :
    ofBinding b held = .ok r ↔
      b.target = held ∧ b.shape = .toOne ∧ b.targetFault = none ∧ b.toReference = r := by
  rw [ofBinding, Binding.checkTarget_bind_eq_ok, Binding.toReference]
  refine and_congr_right fun _ => ?_
  cases b.shape with
  | collection kind => simp [Binding.refuse]
  | toOne => cases b.targetFault <;> cases b.request <;> simp [Binding.refuse]

/-- A collection takes bindings of its shape whose target it holds, if they select by owner. -/
theorem Collection.ofBinding_eq_ok {distinct : Bool} {c : Collection} :
    ofBinding b held distinct = .ok c ↔ b.target = held ∧
      b.shape = .collection (if distinct then .set else .list) ∧ (∃ q, b.request = .byQuery q) ∧
        lazy distinct b.cell b.supplier = c := by
  rw [ofBinding, Binding.checkTarget_bind_eq_ok]
  refine and_congr_right fun _ => ?_
  cases b.shape with
  | toOne => simp [Binding.refuse]
  | collection kind =>
    by_cases hkind : kind = if distinct then .set else .list
    · cases b.request <;> simp [hkind, Binding.refuse]
    · simp [hkind, Binding.refuse]

/-! ## What is loaded -/

/-- How the targets of an association value are found, if they are loaded. -/
def Link.supplier? : Link → Option Supplier
  | reference _ (.unloaded _ _ supplier) => some supplier
  | collection _ ⟨_, .shared _ supplier⟩ => some supplier
  | _ => none

/-- What a binding was turned into is loaded as the binding says. -/
theorem Link.supplier?_of_bind {l l' : Link} {s : Supplier} (h : l.bind b = .ok l')
    (hs : l'.supplier? = some s) : s = b.supplier := by
  cases l with
  | reference held r =>
    obtain ⟨r', hr, rfl⟩ := map_eq_ok.1 h
    obtain ⟨-, -, -, rfl⟩ := Reference.ofBinding_eq_ok.1 hr
    rw [Binding.toReference] at hs
    split at hs
    · split at hs <;> cases hs
      rfl
    · cases hs
      rfl
  | collection held c =>
    obtain ⟨c', hc, rfl⟩ := map_eq_ok.1 h
    obtain ⟨-, -, -, rfl⟩ := Collection.ofBinding_eq_ok.1 hc
    cases hs
    rfl

end EntitySession
