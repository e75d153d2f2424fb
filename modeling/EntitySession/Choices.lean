/-!
# Choices that nothing determines

Some orders are left open: which of several equally urgent actions runs first, and in which order
tracked instances are looked at.  Whoever needs such an order draws from a stream of numbers.  Nothing
is assumed of the stream, so what holds for every stream holds for every order.
-/

set_option autoImplicit false

namespace EntitySession

/-- A stream of numbers, of which some have been used. -/
structure Choices where
  stream : Nat → Nat
  used : Nat

namespace Choices

/-- The stream that always prefers what comes first. -/
def first : Choices := ⟨fun _ => 0, 0⟩

/-- A position below `count`, or 0. -/
def draw (c : Choices) (count : Nat) : Nat × Choices :=
  (c.stream c.used % count, { c with used := c.used + 1 })

/-- The elements of a list in some order. -/
def arrange {α : Type} (c : Choices) : (count : Nat) → List α → List α × Choices
  | 0, xs => (xs, c)
  | count + 1, xs =>
    let (i, c) := c.draw xs.length
    match xs[i]? with
    | none => (xs, c)
    | some x =>
      let (rest, c) := arrange c count (xs.eraseIdx i)
      (x :: rest, c)

/-- The elements of a list in an order that nothing determines. -/
def shuffle {α : Type} (c : Choices) (xs : List α) : List α × Choices := c.arrange xs.length xs

/-- An element put in front of the others is a rearrangement. -/
theorem cons_eraseIdx_perm {α : Type} (xs : List α) (i : Nat) (h : i < xs.length) :
    (xs[i] :: xs.eraseIdx i).Perm xs := by
  induction xs generalizing i with
  | nil => exact absurd h (Nat.not_lt_zero i)
  | cons x xs ih =>
    cases i with
    | zero => exact .refl _
    | succ i => exact (List.Perm.swap ..).trans ((ih i (Nat.lt_of_succ_lt_succ h)).cons x)

/-- A shuffle keeps every element as often as it was there. -/
theorem arrange_perm {α : Type} (count : Nat) (c : Choices) (xs : List α) :
    (c.arrange count xs).1.Perm xs := by
  induction count generalizing c xs with
  | zero => exact .refl _
  | succ count ih =>
    unfold arrange
    rcases hd : c.draw xs.length with ⟨i, d⟩
    cases hx : xs[i]? with
    | none => simp [hx]
    | some x =>
      simp only [hx]
      obtain ⟨hi, rfl⟩ := List.getElem?_eq_some_iff.1 hx
      exact ((ih d (xs.eraseIdx i)).cons _).trans (cons_eraseIdx_perm xs i hi)

theorem shuffle_perm {α : Type} (c : Choices) (xs : List α) : (c.shuffle xs).1.Perm xs :=
  arrange_perm _ c xs

end Choices

end EntitySession
