import Mathlib.Data.List.Basic
import Mathlib.Data.Option.Basic

/-!
# What lasts and what waits

Whoever changes a database has two things to keep apart: the contents that last, and those that it has
come to in an open transaction, which wait to be kept or dropped.  `Holdings D` is the pair of them.
Beginning, keeping, dropping and changing are the only ways it moves.

The accounts of what has happened have the same shape.  A list of statements stands for the contents
that they lead to (`replay`), so the statements that count already and those that would count after a
commit are holdings of lists, and the holdings of a database are their image (`Holdings.map`).  A proof
that some statements and no others are durable is a proof that the two move together, one lemma a
move.

A call of a database either takes effect as a whole or fails without one; `Atomic` says so of one call.
-/

set_option autoImplicit false

namespace EntitySession

/-! ## Calls that take effect as a whole -/

/-- By what is seen of the states, a call leads to `next` if it succeeds, and nowhere if it fails. -/
structure Atomic {σ ε α V : Type} (view : σ → V) (s : σ) (x : Except ε α × σ) (next : V) : Prop where
  done : ∀ a, x.1 = .ok a → view x.2 = next
  failed : ∀ e, x.1 = .error e → view x.2 = view s

namespace Atomic

variable {σ ε α V : Type} {view : σ → V} {s t : σ} {x : Except ε α × σ} {next : V}

theorem of_ok (h : Atomic view s x next) {a : α} (hx : x = (.ok a, t)) : view t = next := by
  subst hx
  exact h.done a rfl

theorem of_error (h : Atomic view s x next) {e : ε} (hx : x = (.error e, t)) : view t = view s := by
  subst hx
  exact h.failed e rfl

/-- By a part of what is seen, a call leads to that part of what it leads to. -/
theorem seen {V' : Type} (h : Atomic view s x next) (f : V → V') :
    Atomic (fun s => f (view s)) s x (f next) :=
  ⟨fun a ha => congrArg f (h.done a ha), fun e he => congrArg f (h.failed e he)⟩

/-- What a call answers does not matter. -/
theorem map {β : Type} (h : Atomic view s x next) (f : α → β) :
    Atomic view s (x.1.map f, x.2) next := by
  obtain ⟨r, t⟩ := x
  cases r with
  | ok a => exact ⟨fun _ _ => h.done a rfl, nofun⟩
  | error e => exact ⟨nofun, fun _ _ => h.failed e rfl⟩

end Atomic

/-! ## Lists of statements -/

section Replay

variable {S D : Type} (effect : S → D → D) (base : D)

/-- The contents that statements lead to, one after another. -/
def replay (statements : List S) : D := statements.foldl (fun d x => effect x d) base

theorem replay_append_single (statements : List S) (x : S) :
    replay effect base (statements ++ [x]) = effect x (replay effect base statements) := by
  rw [replay, List.foldl_append]
  rfl

end Replay

/-! ## Holdings -/

/-- What a database holds of somebody's work. -/
structure Holdings (D : Type) where
  /-- What lasts. -/
  durable : D
  /-- What an open transaction has come to. -/
  working : Option D
  deriving DecidableEq

namespace Holdings

variable {D E S : Type} {h : Holdings D}

/-- What a statement finds. -/
def current (h : Holdings D) : D := h.working.getD h.durable

/-- A change of what a statement finds.  Outside of a transaction it lasts. -/
def change (f : D → D) (h : Holdings D) : Holdings D :=
  ⟨if h.working.isSome then h.durable else f h.durable, h.working.map f⟩

/-- Changes of what statements find, one after another. -/
def changeEach (effect : S → D → D) (statements : List S) (h : Holdings D) : Holdings D :=
  statements.foldl (fun h x => h.change (effect x)) h

/-- A transaction is open. -/
def opened (h : Holdings D) : Holdings D := ⟨h.durable, some h.current⟩

/-- What a statement finds lasts, and no transaction is open. -/
def kept (h : Holdings D) : Holdings D := ⟨h.current, none⟩

/-- What does not last is gone, and no transaction is open. -/
def dropped (h : Holdings D) : Holdings D := ⟨h.durable, none⟩

/-- No transaction is open any more: what it has come to is kept or dropped. -/
def ended (keep : Bool) (h : Holdings D) : Holdings D := if keep then h.kept else h.dropped

@[simp] theorem current_change (f : D → D) : (h.change f).current = f h.current := by
  obtain ⟨d, _ | w⟩ := h <;> rfl

@[simp] theorem working_ended (keep : Bool) : (h.ended keep).working = none := by
  cases keep <;> rfl

/-- Afterwards there is nothing to find but what lasts. -/
theorem current_ended (keep : Bool) : (h.ended keep).current = (h.ended keep).durable := by
  cases keep <;> rfl

/-- Without a transaction there is nothing to keep or to drop. -/
theorem ended_of_none (hnone : h.working = none) (keep : Bool) : h.ended keep = h := by
  obtain ⟨d, w⟩ := h
  obtain rfl : w = none := hnone
  cases keep <;> rfl

theorem change_some (f : D → D) (d w : D) : change f ⟨d, some w⟩ = ⟨d, some (f w)⟩ := rfl

theorem change_none (f : D → D) (d : D) : change f ⟨d, none⟩ = ⟨f d, none⟩ := rfl

/-- A change neither opens nor ends a transaction. -/
@[simp] theorem isSome_change (f : D → D) : (h.change f).working.isSome = h.working.isSome :=
  Option.isSome_map

@[simp] theorem isSome_changeEach (effect : S → D → D) (statements : List S) :
    (h.changeEach effect statements).working.isSome = h.working.isSome := by
  induction statements generalizing h with
  | nil => rfl
  | cons x rest ih => exact ih.trans (isSome_change _)

theorem durable_change_of_isSome (hopen : h.working.isSome = true) (f : D → D) :
    (h.change f).durable = h.durable := if_pos hopen

theorem durable_change_of_none (hnone : h.working = none) (f : D → D) :
    (h.change f).durable = f h.durable := by
  rw [change, hnone]
  rfl

/-! ### Images -/

/-- The holdings that others stand for. -/
def map (f : D → E) (h : Holdings D) : Holdings E := ⟨f h.durable, h.working.map f⟩

theorem isSome_map (f : D → E) : (h.map f).working.isSome = h.working.isSome := Option.isSome_map

theorem current_map (f : D → E) : (h.map f).current = f h.current := by
  obtain ⟨d, _ | w⟩ := h <;> rfl

theorem map_opened (f : D → E) : h.opened.map f = (h.map f).opened := by
  rw [opened, opened, current_map]
  rfl

theorem map_kept (f : D → E) : h.kept.map f = (h.map f).kept := by
  rw [kept, kept, current_map]
  rfl

theorem map_dropped (f : D → E) : h.dropped.map f = (h.map f).dropped := rfl

theorem map_ended (f : D → E) (keep : Bool) : (h.ended keep).map f = (h.map f).ended keep := by
  cases keep
  · exact map_dropped f
  · exact map_kept f

/-- One more statement leads to what it makes of the contents. -/
theorem map_replay_change (effect : S → D → D) (base : D) (h : Holdings (List S)) (x : S) :
    (h.change (· ++ [x])).map (replay effect base) =
      (h.map (replay effect base)).change (effect x) := by
  obtain ⟨d, _ | w⟩ := h
  · exact congrArg (Holdings.mk · none) (replay_append_single effect base d x)
  · exact congrArg (Holdings.mk _ ∘ some) (replay_append_single effect base w x)

end Holdings

/-! ## A database that refuses calls -/

/-- Holdings that refuse some of the calls to come: the next one, if the list begins with `true`. -/
structure Fickle (D : Type) where
  holdings : Holdings D
  refusals : List Bool

namespace Fickle

variable {D ε α : Type}

/-- Makes a call, unless it is refused. -/
def attempt (refusal : ε) (f : Holdings D → Except ε α × Holdings D) (s : Fickle D) :
    Except ε α × Fickle D :=
  if s.refusals.headD false then (.error refusal, { s with refusals := s.refusals.tail })
  else ((f s.holdings).1, ⟨(f s.holdings).2, s.refusals.tail⟩)

/-- To refuse a call is to leave the holdings as they are. -/
theorem attempt_atomic {refusal : ε} {f : Holdings D → Except ε α × Holdings D} {s : Fickle D}
    {next : Holdings D} (hf : Atomic id s.holdings (f s.holdings) next) :
    Atomic holdings s (attempt refusal f s) next := by
  rw [attempt]
  split
  · exact ⟨nofun, fun _ _ => rfl⟩
  · exact ⟨hf.done, hf.failed⟩

/-- A call that never fails by itself. -/
theorem attempt_move_atomic (refusal : ε) (answer : α) (move : Holdings D → Holdings D) (s : Fickle D) :
    Atomic holdings s (attempt refusal (fun h => (.ok answer, move h)) s) (move s.holdings) :=
  attempt_atomic ⟨fun _ _ => rfl, nofun⟩

end Fickle

end EntitySession
