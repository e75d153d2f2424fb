import EntitySession.Key
import Mathlib.Data.List.Perm.Subperm

/-!
# Relation values in any order

`sameRelations` goes through one list and takes an equal of each relation value out of the other one.
That this compares the two as multisets is `sameRelations_comparesMultisets`.  Two things about the loop
stand in its way.

* **The order of what remains.**  The last relation value moves into the gap that is left by the one taken
  out (`swapRemove`), so after a few rounds what remains is no sublist of what there was.  Only its elements
  are known: together with the one taken out, they are those from before (`swapRemove_perm`).
* **The choice.**  Each round takes the first equal that it comes upon, and equal relation values need not
  be the same: a zero has two signs, and there are many NaNs.  Nothing is lost by choosing badly, because
  equality is an equivalence.  All that are equal have one representative (`RelationValue.folded`), and
  among representatives there is no choice.

So the invariant is one about representatives: from any point on, the loop comes through exactly if those
that are still to be found are, in some order, among what remains (`takesAll_iff_subperm`).  As the lists
are equally long, nothing is left over in the end.
-/

set_option autoImplicit false

namespace EntitySession

/-! ## Equal relation values -/

namespace RelationValue

variable {a b : RelationValue}

/-- Relation values that are equal: they refer to one type, in one column, and their values are the same
key. -/
structure Alike (a b : RelationValue) : Prop where
  target : a.target = b.target
  column : a.column = b.column
  value : (a.value == b.value) = true

/-- The representative of a relation value among those that are equal to it. -/
def folded (r : RelationValue) : RelationValue := { r with value := r.value.folded }

theorem beq_iff_alike : (a == b) = true ↔ Alike a b := by
  change (a.target == b.target && a.column == b.column && a.value == b.value) = true ↔ _
  rw [Bool.and_eq_true, Bool.and_eq_true, beq_iff_eq, beq_iff_eq]
  exact ⟨fun ⟨⟨htarget, hcolumn⟩, hvalue⟩ => ⟨htarget, hcolumn, hvalue⟩,
    fun h => ⟨⟨h.target, h.column⟩, h.value⟩⟩

theorem alike_iff_folded : Alike a b ↔ a.folded = b.folded := by
  rw [folded, folded, mk.injEq, ← Value.beq_iff_folded]
  exact ⟨fun h => ⟨h.target, h.column, h.value⟩,
    fun ⟨htarget, hcolumn, hvalue⟩ => ⟨htarget, hcolumn, hvalue⟩⟩

theorem beq_iff_folded : (a == b) = true ↔ a.folded = b.folded :=
  beq_iff_alike.trans alike_iff_folded

theorem map_folded_eq_iff {as bs : List RelationValue} :
    as.map folded = bs.map folded ↔ List.Forall₂ Alike as bs := by
  rw [← List.forall₂_eq_eq_eq, List.forall₂_map_left_iff, List.forall₂_map_right_iff]
  simp only [← alike_iff_folded]

instance : EquivBEq RelationValue where
  rfl := beq_iff_folded.2 rfl
  symm h := beq_iff_folded.2 (beq_iff_folded.1 h).symm
  trans h h' := beq_iff_folded.2 ((beq_iff_folded.1 h).trans (beq_iff_folded.1 h'))

end RelationValue

/-! ## One round -/

/-- The element at a position and what remains without it are the elements from before. -/
theorem swapRemove_perm {α : Type} {xs : List α} {i : Nat} (hi : i < xs.length) :
    (xs[i] :: swapRemove xs i).Perm xs := by
  obtain rfl | ⟨ys, last, rfl⟩ := xs.eq_nil_or_concat'
  · exact absurd hi (Nat.not_lt_zero i)
  have hlast : (ys ++ [last]).Perm (last :: ys) := List.perm_append_singleton last ys
  simp only [swapRemove, List.getLast?_concat]
  by_cases hys : i < ys.length
  · -- the last element moves into the gap
    rw [List.set_append_left i last hys, List.dropLast_concat, List.getElem_append_left hys]
    calc (ys[i] :: ys.set i last).Perm (ys[i] :: last :: ys.eraseIdx i) :=
          (List.set_perm_cons_eraseIdx hys last).cons _
      List.Perm _ (last :: ys[i] :: ys.eraseIdx i) := .swap ..
      List.Perm _ (last :: ys) := (List.getElem_cons_eraseIdx_perm hys).cons _
      List.Perm _ (ys ++ [last]) := hlast.symm
  · -- it is itself the one that is taken out
    obtain rfl : i = ys.length := by
      rw [List.length_append, List.length_singleton] at hi
      omega
    rw [List.set_append_right _ _ (Nat.le_refl _), List.getElem_concat_length rfl]
    simpa using hlast.symm

open RelationValue

variable {r : RelationValue} {as bs pool : List RelationValue} {i : Nat}

/-- What is found is equal to what was looked for, so that by representatives this is taken out. -/
theorem perm_of_found (h : pool.findIdx? (fun other => other == r) = some i) :
    List.Perm (pool.map folded) (r.folded :: (swapRemove pool i).map folded) := by
  obtain ⟨hi, hfound, -⟩ := List.findIdx?_eq_some_iff_getElem.1 h
  rw [← beq_iff_folded.1 hfound, ← List.map_cons]
  exact ((swapRemove_perm hi).map folded).symm

/-- What is not found has no equal there. -/
theorem not_mem_of_missed (h : pool.findIdx? (fun other => other == r) = none) :
    r.folded ∉ pool.map folded := by
  rw [List.mem_map]
  rintro ⟨other, hother, hfolded⟩
  have hmissed := List.findIdx?_eq_none_iff.1 h other hother
  rw [beq_iff_folded.2 hfolded] at hmissed
  cases hmissed

/-! ## The whole loop -/

/-- All can be taken exactly if they are, in some order and by representatives, among what there is. -/
theorem takesAll_iff_subperm :
    takesAll as pool = true ↔ List.Subperm (as.map folded) (pool.map folded) := by
  -- on those that are still to be found, for whatever a round leaves of the pool
  induction as generalizing pool with
  | nil => simp [takesAll]
  | cons r as ih =>
    rw [takesAll, List.map_cons]
    cases hfind : pool.findIdx? fun other => other == r with
    | none =>
      have hmissed : ¬List.Subperm (r.folded :: as.map folded) (pool.map folded) := fun h =>
        not_mem_of_missed hfind (h.subset List.mem_cons_self)
      simp [hmissed]
    | some i => rw [ih, (perm_of_found hfind).subperm_left, List.subperm_cons]

theorem sameRelations_iff_perm :
    sameRelations as bs = true ↔ List.Perm (as.map folded) (bs.map folded) := by
  rw [sameRelations, Bool.and_eq_true, beq_iff_eq, takesAll_iff_subperm]
  constructor
  · rintro ⟨hlength, hsubperm⟩
    refine hsubperm.perm_of_length_le (Nat.le_of_eq ?_)
    rw [List.length_map, List.length_map, hlength]
  · intro hperm
    have hlength := hperm.length_eq
    rw [List.length_map, List.length_map] at hlength
    exact ⟨hlength, hperm.subperm⟩

theorem sameRelations_self (rs : List RelationValue) : sameRelations rs rs = true :=
  sameRelations_iff_perm.2 (.refl _)

/-- Relation values that are equal one by one are in the same lists equally often. -/
theorem sameRelations_congr (h : List.Forall₂ (fun a b => (a == b) = true) as bs)
    (cs : List RelationValue) : sameRelations as cs = sameRelations bs cs := by
  have hfolded : as.map folded = bs.map folded :=
    map_folded_eq_iff.2 (h.imp fun _ _ => beq_iff_alike.1)
  rw [Bool.eq_iff_iff, sameRelations_iff_perm, sameRelations_iff_perm, hfolded]

/-! ## Rearranging and counting -/

/-- To be a rearrangement by representatives is to be one up to equality. -/
theorem perm_folded_iff : List.Perm (as.map folded) (bs.map folded) ↔
    ∃ cs, List.Perm cs as ∧ List.Forall₂ Alike cs bs := by
  calc List.Perm (as.map folded) (bs.map folded)
    _ ↔ List.Perm (bs.map folded) (as.map folded) := List.perm_comm
    _ ↔ ∃ cs : List RelationValue, bs.map folded = cs.map folded ∧ List.Perm cs as :=
      .of_eq (congrFun₂ (List.eq_map_comp_perm folded) (bs.map folded) as).symm
    _ ↔ ∃ cs, List.Perm cs as ∧ List.Forall₂ Alike cs bs :=
      exists_congr fun _ => and_comm.trans (and_congr_right fun _ => eq_comm.trans map_folded_eq_iff)

/-- By representatives, rearranging is counting the equal ones. -/
theorem perm_folded_iff_countP : List.Perm (as.map folded) (bs.map folded) ↔
    ∀ r, as.countP (· == r) = bs.countP (· == r) := by
  classical
  have hcount (cs : List RelationValue) (r : RelationValue) :
      cs.countP (· == r) = (cs.map folded).countP fun x => decide (x = r.folded) := by
    rw [List.countP_map]
    refine List.countP_congr fun c _ => ?_
    rw [beq_iff_folded, Function.comp_apply, decide_eq_true_eq]
  constructor
  · intro h r
    rw [hcount, hcount, h.countP_eq]
  · intro h
    rw [@List.perm_iff_count _ instBEqOfDecidableEq]
    intro x
    -- representatives are counted as they are, not up to the equality of relation values
    change (as.map folded).countP (fun y => decide (y = x)) =
      (bs.map folded).countP fun y => decide (y = x)
    by_cases hx : ∃ r, folded r = x
    · obtain ⟨r, rfl⟩ := hx
      rw [← hcount, ← hcount, h r]
    · have hnone (cs : List RelationValue) : (cs.map folded).countP (fun y => decide (y = x)) = 0 := by
        rw [List.countP_eq_zero, List.forall_mem_map]
        exact fun c _ hc => hx ⟨c, of_decide_eq_true hc⟩
      rw [hnone, hnone]

/-- What a comparison of lists has to be in order to compare them as multisets of relation values. -/
structure ComparesMultisets (same : List RelationValue → List RelationValue → Bool) : Prop where
  /-- The second list is a rearrangement of the first one, up to equality. -/
  perm_iff : ∀ as bs, same as bs = true ↔ ∃ cs, List.Perm cs as ∧ List.Forall₂ Alike cs bs
  /-- Every relation value is in both equally often. -/
  countP_iff : ∀ as bs, same as bs = true ↔ ∀ r, as.countP (· == r) = bs.countP (· == r)
  equivalence : Equivalence fun as bs => same as bs = true
  /-- Neither list's order matters. -/
  congr_perm : ∀ as as' bs bs', List.Perm as as' → List.Perm bs bs' → same as bs = same as' bs'

/-- **`sameRelations` compares multisets.** -/
theorem sameRelations_comparesMultisets : ComparesMultisets sameRelations where
  perm_iff _ _ := sameRelations_iff_perm.trans perm_folded_iff
  countP_iff _ _ := sameRelations_iff_perm.trans perm_folded_iff_countP
  equivalence := {
    refl := sameRelations_self
    symm := fun h => sameRelations_iff_perm.2 (sameRelations_iff_perm.1 h).symm
    trans := fun h h' =>
      sameRelations_iff_perm.2 ((sameRelations_iff_perm.1 h).trans (sameRelations_iff_perm.1 h')) }
  congr_perm as as' bs bs' has hbs := by
    rw [Bool.eq_iff_iff, sameRelations_iff_perm, sameRelations_iff_perm]
    have hleft := has.map folded
    have hright := hbs.map folded
    exact ⟨fun h => (hleft.symm.trans h).trans hright, fun h => (hleft.trans h).trans hright.symm⟩

namespace Couriers

/-- The reference of a delivery to the person who has sent it. -/
def sender (id : Value) : RelationValue := ⟨"Person", "sender_id", id⟩

/-- The reference of a delivery to the person who is to have it. -/
def receiver (id : Value) : RelationValue := ⟨"Person", "receiver_id", id⟩

/-- Two zeros are found for each other, whatever their signs; of three references two of which are equal,
it matters which ones; and the order does not matter. -/
theorem comparesMultisets_deliveries :
    sameRelations [sender (.double ⟨0⟩), receiver .null, sender (.double ⟨0x8000000000000000⟩)]
        [sender (.double ⟨0x8000000000000000⟩), sender (.double ⟨0x8000000000000000⟩), receiver .null] =
      true ∧
    sameRelations [sender (.int 1), sender (.int 1), receiver (.int 1)]
      [sender (.int 1), receiver (.int 1), receiver (.int 1)] = false ∧
    sameRelations [sender (.int 1), receiver (.int 2)] [receiver (.int 2), sender (.int 3)] =
      sameRelations [receiver (.int 2), sender (.int 1)] [sender (.int 3), receiver (.int 2)] := by
  refine ⟨?_, ?_, ?_⟩
  · refine (sameRelations_comparesMultisets.perm_iff _ _).2
      ⟨[sender (.double ⟨0⟩), sender (.double ⟨0x8000000000000000⟩), receiver .null],
        (List.Perm.swap ..).cons _, ?_⟩
    have hzeros : Alike (sender (.double ⟨0⟩)) (sender (.double ⟨0x8000000000000000⟩)) :=
      ⟨rfl, rfl, by decide +kernel⟩
    exact .cons hzeros (.cons (beq_iff_alike.1 BEq.rfl) (.cons (beq_iff_alike.1 BEq.rfl) .nil))
  · rw [Bool.eq_false_iff]
    intro hsame
    have hcount := (sameRelations_comparesMultisets.countP_iff _ _).1 hsame (sender (.int 1))
    revert hcount
    decide +kernel
  · exact sameRelations_comparesMultisets.congr_perm _ _ _ _ (.swap ..) (.swap ..)

end Couriers

end EntitySession
