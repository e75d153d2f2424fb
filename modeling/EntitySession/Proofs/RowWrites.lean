import Mathlib.Data.List.Basic
import Mathlib.Data.List.Perm.Basic
import Mathlib.Logic.Function.Basic

/-!
# Rows that are written in another order

A `RowWrite` inserts a row at an address or deletes the row that is there.  An insert fails where there
is a row already; a delete succeeds in any case.

Whether a list of writes succeeds, and what it leaves, is decided at each address by itself
(`RowWrite.run_eq_some`), so what happens to one address is followed through a list of cells: a row for
an insert, none for a delete (`RowWrite.cell`).

Suppose that some writes succeed in one order.  If the inserts are done first and the deletes last, do
they succeed again, and is the outcome the same?  `RowWrite.run_sorted` has the answer: they do, if and
only if at each address the writes are `Sortable`.
-/

set_option autoImplicit false

namespace EntitySession

/-- A write to a row with an address. -/
inductive RowWrite (α ρ : Type) where
  | insert (a : α) (row : ρ)
  | delete (a : α)

namespace RowWrite

variable {α ρ : Type}

/-! ## One address -/

/-- What becomes of what is at an address, if nothing fails: a row is put there where there is none, or
whatever is there is removed. -/
def cell : List (Option ρ) → Option ρ → Option (Option ρ)
  | [], x => some x
  | none :: xs, _ => cell xs none
  | some row :: xs, none => cell xs (some row)
  | some _ :: _, some _ => none

theorem cell_append (xs ys : List (Option ρ)) (x : Option ρ) :
    cell (xs ++ ys) x = (cell xs x).bind (cell ys) := by
  induction xs generalizing x with
  | nil => rfl
  | cons v xs ih =>
    cases v with
    | none => exact ih none
    | some row =>
      cases x with
      | none => exact ih (some row)
      | some _ => rfl

/-- What is there in the end is what was written last. -/
theorem cell_getLast {xs : List (Option ρ)} {x y v : Option ρ} (h : cell xs x = some y)
    (hv : xs.getLast? = some v) : y = v := by
  obtain ⟨front, rfl⟩ := List.getLast?_eq_some_iff.1 hv
  rw [cell_append] at h
  obtain ⟨z, -, hz⟩ := Option.bind_eq_some_iff.1 h
  cases v with
  | none => exact (Option.some.inj hz).symm
  | some row =>
    cases z with
    | none => exact (Option.some.inj hz).symm
    | some _ => cases hz

/-- Deletes leave nothing, if there are any. -/
theorem cell_deletes {xs : List (Option ρ)} (hxs : ∀ v ∈ xs, v = none) (hne : xs ≠ [])
    (x : Option ρ) : cell xs x = some none := by
  induction xs generalizing x with
  | nil => exact absurd rfl hne
  | cons v xs ih =>
    obtain ⟨hv, hrest⟩ := List.forall_mem_cons.1 hxs
    subst hv
    by_cases hnil : xs = []
    · rw [hnil]
      rfl
    · exact ih hrest hnil none

/-- Whether the inserts among the writes to an address may be done first and the deletes last: either
nothing is inserted; or one row is inserted where there was none, and unless nothing is deleted the last
of the writes is a delete. -/
def Sortable (xs : List (Option ρ)) (x : Option ρ) : Prop :=
  xs.filter Option.isSome = [] ∨
    x = none ∧ (∃ row, xs.filter Option.isSome = [some row]) ∧ (none ∈ xs → xs.getLast? = some none)

/-- The one insert among some writes may come first if nothing or a delete comes last. -/
theorem cell_insert_first {xs deletes : List (Option ρ)} {row : ρ} {y : Option ρ}
    (h : cell xs none = some y) (hperm : (some row :: deletes).Perm xs)
    (hdeletes : ∀ v ∈ deletes, v = none) :
    cell (some row :: deletes) none = some y ↔ (none ∈ xs → xs.getLast? = some none) := by
  by_cases hnil : deletes = []
  · subst hnil
    obtain rfl : xs = [some row] := List.perm_singleton.1 hperm.symm
    exact ⟨fun _ hmem => by simp at hmem, fun _ => h⟩
  · have hcell : cell (some row :: deletes) none = some none := cell_deletes hdeletes hnil _
    have hmem : none ∈ xs := by
      obtain ⟨v, hv⟩ := List.exists_mem_of_ne_nil deletes hnil
      exact hperm.subset (List.mem_cons_of_mem _ (hdeletes v hv ▸ hv))
    obtain ⟨v, hv⟩ := Option.isSome_iff_exists.1 (List.getLast?_isSome.2 (List.ne_nil_of_mem hmem))
    rw [hcell, cell_getLast h hv, hv, Option.some.injEq]
    exact ⟨fun hsame _ => by rw [hsame], fun hlast => (Option.some.inj (hlast hmem)).symm⟩

theorem cell_sorted {xs inserts deletes : List (Option ρ)} {x y : Option ρ} (h : cell xs x = some y)
    (hperm : (inserts ++ deletes).Perm xs) (hinserts : ∀ v ∈ inserts, v.isSome = true)
    (hdeletes : ∀ v ∈ deletes, v = none) :
    cell (inserts ++ deletes) x = some y ↔ Sortable xs x := by
  have hfilter : (xs.filter Option.isSome).Perm inserts := by
    have hnone : deletes.filter Option.isSome = [] := List.filter_eq_nil_iff.2 fun v hv => by
      rw [hdeletes v hv]
      exact Bool.false_ne_true
    have hsame := hperm.filter Option.isSome
    rw [List.filter_append, List.filter_eq_self.2 hinserts, hnone, List.append_nil] at hsame
    exact hsame.symm
  match inserts with
  | [] =>
    -- deletes can be done in one order only
    have hsame : deletes = xs := by
      rw [List.eq_replicate_of_mem hdeletes] at hperm ⊢
      exact (List.perm_replicate.1 hperm.symm).symm
    rw [List.nil_append, hsame]
    exact ⟨fun _ => .inl (List.perm_nil.1 hfilter), fun _ => h⟩
  | [some row] =>
    have hone : xs.filter Option.isSome = [some row] := List.perm_singleton.1 hfilter
    rw [Sortable, hone]
    cases x with
    | some _ => exact ⟨nofun, by simp⟩
    | none =>
      refine (cell_insert_first h hperm hdeletes).trans ⟨fun hlast => .inr ⟨rfl, ⟨row, rfl⟩, hlast⟩, ?_⟩
      rintro (hnil | ⟨-, -, hlast⟩)
      · cases hnil
      · exact hlast
  | some _ :: some _ :: _ =>
    -- the second insert finds what the first has left
    have hlength := hfilter.length_eq
    constructor
    · intro hcell
      cases x <;> cases hcell
    · rintro (hnil | ⟨-, ⟨_, hone⟩, -⟩)
      · rw [hnil] at hlength
        cases hlength
      · rw [hone] at hlength
        cases hlength
  | none :: _ => cases hinserts none List.mem_cons_self
  | some _ :: none :: _ => cases hinserts none (List.mem_cons_of_mem _ List.mem_cons_self)

/-- Where no insert comes after a delete, the writes may be sorted. -/
theorem sortable_of_pairwise {xs : List (Option ρ)} {x y : Option ρ} (h : cell xs x = some y)
    (hp : xs.Pairwise fun v v' => v = none → v' = none) : Sortable xs x := by
  have hfilter {zs : List (Option ρ)} (hzs : ∀ v ∈ zs, v = none) : zs.filter Option.isSome = [] :=
    List.filter_eq_nil_iff.2 fun v hv => by
      rw [hzs v hv]
      exact Bool.false_ne_true
  match xs, x with
  | [], _ => exact .inl rfl
  | none :: rest, _ =>
    refine .inl (hfilter (List.forall_mem_cons.2 ⟨rfl, fun v hv => ?_⟩))
    exact (List.pairwise_cons.1 hp).1 v hv rfl
  | some row :: [], none => exact .inr ⟨rfl, ⟨row, rfl⟩, by simp⟩
  | some row :: none :: rest, none =>
    have hrest : ∀ v ∈ none :: rest, v = none := List.forall_mem_cons.2 ⟨rfl, fun v hv =>
      (List.pairwise_cons.1 (List.pairwise_cons.1 hp).2).1 v hv rfl⟩
    refine .inr ⟨rfl, ⟨row, ?_⟩, fun _ => ?_⟩
    · rw [List.filter_cons_of_pos rfl, hfilter hrest]
    · rw [List.getLast?_cons_cons, List.getLast?_eq_some_getLast (List.cons_ne_nil _ _)]
      exact congrArg some (hrest _ (List.getLast_mem _))

/-! ## All addresses -/

variable [DecidableEq α]

/-- The rows after a write, if it succeeds. -/
def apply (rows : α → Option ρ) : RowWrite α ρ → Option (α → Option ρ)
  | insert a row => if (rows a).isSome then none else some (Function.update rows a (some row))
  | delete a => some (Function.update rows a none)

/-- The rows after some writes, if all of them succeed. -/
def run : List (RowWrite α ρ) → (α → Option ρ) → Option (α → Option ρ)
  | [], rows => some rows
  | x :: xs, rows => (x.apply rows).bind (run xs)

/-- What a write is to an address, if it is one to that address. -/
def at? (a : α) : RowWrite α ρ → Option (Option ρ)
  | insert b row => if b = a then some (some row) else none
  | delete b => if b = a then some none else none

theorem run_append (xs ys : List (RowWrite α ρ)) (rows : α → Option ρ) :
    run (xs ++ ys) rows = (run xs rows).bind (run ys) := by
  induction xs generalizing rows with
  | nil => rfl
  | cons x xs ih =>
    rw [List.cons_append, run, run]
    cases x.apply rows with
    | none => rfl
    | some rows' => exact ih rows'

/-- Writes succeed if they do so at each address, and leave there what they leave. -/
theorem run_eq_some {xs : List (RowWrite α ρ)} {rows rows' : α → Option ρ} :
    run xs rows = some rows' ↔ ∀ a, cell (xs.filterMap (at? a)) (rows a) = some (rows' a) := by
  induction xs generalizing rows with
  | nil =>
    rw [run, Option.some.injEq]
    exact ⟨fun h a => congrArg some (congrFun h a), fun h => funext fun a => Option.some.inj (h a)⟩
  | cons x xs ih =>
    -- a write is seen at its own address only
    have hupdate (b : α) (v : Option ρ) (hx : ∀ a, x.at? a = if b = a then some v else none)
        (hcell : ∀ ys, cell (v :: ys) (rows b) = cell ys v) :
        run xs (Function.update rows b v) = some rows' ↔
          ∀ a, cell ((x :: xs).filterMap (at? a)) (rows a) = some (rows' a) := by
      refine ih.trans (forall_congr' fun a => ?_)
      by_cases hab : b = a
      · subst hab
        rw [Function.update_self, List.filterMap_cons, hx, if_pos rfl, hcell]
      · rw [Function.update_of_ne (Ne.symm hab), List.filterMap_cons, hx, if_neg hab]
    cases x with
    | delete b => exact hupdate b none (fun _ => rfl) fun _ => rfl
    | insert b row =>
      cases hb : rows b with
      | none =>
        rw [run, apply, hb, if_neg (by simp), Option.bind_some]
        refine hupdate b (some row) (fun _ => rfl) fun _ => ?_
        rw [hb]
        rfl
      | some _ =>
        rw [run, apply, hb, Option.isSome_some, if_pos rfl, Option.bind_none]
        refine ⟨nofun, fun h => ?_⟩
        have hcell := h b
        rw [hb, List.filterMap_cons, at?, if_pos rfl] at hcell
        cases hcell

/-- Whether the inserts among some writes may be done first and the deletes last. -/
def Orderly (xs : List (RowWrite α ρ)) (rows : α → Option ρ) : Prop :=
  ∀ a, Sortable (xs.filterMap (at? a)) (rows a)

/-- Writes that succeed leave the same if the inserts are done first and the deletes last, if and only if
they are in order. -/
theorem run_sorted {xs inserts deletes : List (RowWrite α ρ)} {rows rows' : α → Option ρ}
    (h : run xs rows = some rows') (hperm : (inserts ++ deletes).Perm xs)
    (hinserts : ∀ x ∈ inserts, ∃ a row, x = insert a row)
    (hdeletes : ∀ x ∈ deletes, ∃ a, x = delete a) :
    run (inserts ++ deletes) rows = some rows' ↔ Orderly xs rows := by
  rw [run_eq_some]
  refine forall_congr' fun a => ?_
  have hpermAt := hperm.filterMap (at? a)
  rw [List.filterMap_append] at hpermAt ⊢
  refine cell_sorted (run_eq_some.1 h a) hpermAt (fun v hv => ?_) fun v hv => ?_
  · obtain ⟨x, hx, hxv⟩ := List.mem_filterMap.1 hv
    obtain ⟨b, row, rfl⟩ := hinserts x hx
    rw [at?, Option.ite_none_right_eq_some] at hxv
    rw [← Option.some.inj hxv.2]
    rfl
  · obtain ⟨x, hx, hxv⟩ := List.mem_filterMap.1 hv
    obtain ⟨b, rfl⟩ := hdeletes x hx
    rw [at?, Option.ite_none_right_eq_some] at hxv
    exact (Option.some.inj hxv.2).symm

/-- Writes that succeed are in order, if no row is inserted after it was deleted. -/
theorem orderly_of_pairwise {xs : List (RowWrite α ρ)} {rows rows' : α → Option ρ}
    (h : run xs rows = some rows')
    (hp : xs.Pairwise fun x y => ∀ a row, x = delete a → y ≠ insert a row) : Orderly xs rows := by
  intro a
  refine sortable_of_pairwise (run_eq_some.1 h a) ?_
  refine List.pairwise_filterMap.2 (hp.imp fun {x y} hxy v hv v' hv' hnone => ?_)
  subst hnone
  cases x with
  | insert b row =>
    rw [at?, Option.ite_none_right_eq_some] at hv
    cases hv.2
  | delete b =>
    rw [at?, Option.ite_none_right_eq_some] at hv
    cases y with
    | insert c row =>
      rw [at?, Option.ite_none_right_eq_some] at hv'
      exact absurd (by rw [hv'.1, ← hv.1]) (hxy b row rfl)
    | delete c =>
      rw [at?, Option.ite_none_right_eq_some] at hv'
      exact (Option.some.inj hv'.2).symm

end RowWrite

end EntitySession
