import EntitySession.Act
import Mathlib.Logic.Relation

/-!
# What an act passes through

An act ends in a state, with a result or a failure.  Two things are said of it here:

* how the result of a composite act is put together, `Act.perform_bind_ok` and its companions, which
  take a chain of acts apart link by link;
* which way the state has gone, `Act.Via R x s`: performed in `s`, the act `x` changes the state by
  a sequence of changes of the kind `R`, whether it succeeds or fails.

The second is what makes an invariant cheap.  Once the acts are known to go by changes of a few
kinds, whatever each of those changes keeps is kept by every act.
-/

set_option autoImplicit false

namespace EntitySession.Act

open Relation

variable {σ τ α β : Type}

/-! ## Taking a chain apart -/

/-- Acts that do the same in every state are the same. -/
theorem ext {x y : Act σ α} (h : ∀ s, x.perform s = y.perform s) : x = y := funext h

theorem perform_bind_of_ok {x : Act σ α} {s t : σ} {a : α} (h : x.perform s = (.ok a, t))
    (f : α → Act σ β) : (x >>= f).perform s = (f a).perform t := by
  rw [perform_bind, h]

theorem perform_bind_of_error {x : Act σ α} {s t : σ} {e : Error} (h : x.perform s = (.error e, t))
    (f : α → Act σ β) : (x >>= f).perform s = (.error e, t) := by
  rw [perform_bind, h]

/-- A chain that begins with a computation that succeeds. -/
theorem perform_lift_bind_of_ok {r : Except Error α} {a : α} (h : r = .ok a) (f : α → Act σ β) (s : σ) :
    (lift r >>= f).perform s = (f a).perform s := by
  rw [perform_bind, perform_lift, h]

/-- A chain succeeds exactly when both of its links do. -/
theorem perform_bind_ok {x : Act σ α} {f : α → Act σ β} {s t : σ} {b : β} :
    (x >>= f).perform s = (.ok b, t) ↔
      ∃ a u, x.perform s = (.ok a, u) ∧ (f a).perform u = (.ok b, t) := by
  rw [perform_bind]
  constructor
  · intro h
    rcases hx : x.perform s with ⟨r, u⟩
    rw [hx] at h
    cases r with
    | ok a => exact ⟨a, u, rfl, h⟩
    | error e => cases h
  · rintro ⟨a, u, hx, hf⟩
    rw [hx]
    exact hf

/-- A chain fails where its first link fails or, after that, its second. -/
theorem perform_bind_error {x : Act σ α} {f : α → Act σ β} {s t : σ} {e : Error} :
    (x >>= f).perform s = (.error e, t) ↔ x.perform s = (.error e, t) ∨
      ∃ a u, x.perform s = (.ok a, u) ∧ (f a).perform u = (.error e, t) := by
  rw [perform_bind]
  constructor
  · intro h
    rcases hx : x.perform s with ⟨r, u⟩
    rw [hx] at h
    cases r with
    | ok a => exact .inr ⟨a, u, rfl, h⟩
    | error e' =>
      obtain ⟨he, rfl⟩ := Prod.mk.inj h
      cases he
      exact .inl rfl
  · rintro (hx | ⟨a, u, hx, hf⟩)
    · rw [hx]
    · rw [hx]
      exact hf

@[simp] theorem perform_map (f : α → β) (x : Act σ α) (s : σ) :
    (f <$> x).perform s = ((x.perform s).1.map f, (x.perform s).2) := by
  rw [map_eq_pure_bind, perform_bind]
  rcases x.perform s with ⟨r, t⟩
  cases r <;> rfl

theorem perform_map_eq {f : α → β} {x : Act σ α} {s t : σ} {r : Except Error β}
    (h : (f <$> x).perform s = (r, t)) : ∃ r', x.perform s = (r', t) ∧ r = r'.map f := by
  rw [perform_map, Prod.mk.injEq] at h
  exact ⟨_, Prod.ext rfl h.2, h.1.symm⟩

theorem perform_map_ok {f : α → β} {x : Act σ α} {s t : σ} {b : β} :
    (f <$> x).perform s = (.ok b, t) ↔ ∃ a, x.perform s = (.ok a, t) ∧ f a = b := by
  rw [perform_map]
  rcases x.perform s with ⟨r, u⟩
  cases r with
  | error e => simp [Except.map]
  | ok a =>
    simp only [Except.map, Prod.mk.injEq, Except.ok.injEq]
    constructor
    · rintro ⟨hb, ht⟩
      exact ⟨a, ⟨rfl, ht⟩, hb⟩
    · rintro ⟨_, ⟨rfl, ht⟩, hb⟩
      exact ⟨hb, ht⟩

/-- Doing an act for each element of a list, in order. -/
def each (f : α → Act σ Unit) : List α → Act σ Unit
  | [] => pure ()
  | a :: as => do
    f a
    each f as

/-- When all of it was done for the first elements, it goes on with the others. -/
theorem perform_each_append {f : α → Act σ Unit} {as bs : List α} {s t : σ}
    (h : (each f as).perform s = (.ok (), t)) :
    (each f (as ++ bs)).perform s = (each f bs).perform t := by
  induction as generalizing s with
  | nil =>
    cases h
    rfl
  | cons a as ih =>
    obtain ⟨_, u, hu, has⟩ := perform_bind_ok.1 h
    rw [List.cons_append, each, perform_bind_of_ok hu, ih has]

theorem perform_each_append_ok {f : α → Act σ Unit} {as bs : List α} {s t : σ} :
    (each f (as ++ bs)).perform s = (.ok (), t) ↔
      ∃ u, (each f as).perform s = (.ok (), u) ∧ (each f bs).perform u = (.ok (), t) := by
  induction as generalizing s with
  | nil => simp [each]
  | cons a as ih =>
    simp only [List.cons_append, each, perform_bind_ok, ih]
    constructor
    · rintro ⟨x, u, hf, v, has, hbs⟩
      exact ⟨v, ⟨x, u, hf, has⟩, hbs⟩
    · rintro ⟨v, ⟨x, u, hf, has⟩, hbs⟩
      exact ⟨x, u, hf, v, has, hbs⟩

/-- Where it fails, it has been done for the elements before one for which it cannot be done. -/
theorem perform_each_error {f : α → Act σ Unit} {as : List α} {s t : σ} {e : Error}
    (h : (each f as).perform s = (.error e, t)) :
    ∃ done a rest u, as = done ++ a :: rest ∧ (each f done).perform s = (.ok (), u) ∧
      (f a).perform u = (.error e, t) := by
  induction as generalizing s with
  | nil => cases h
  | cons a as ih =>
    rcases perform_bind_error.1 h with h | ⟨x, u, hu, h⟩
    · exact ⟨[], a, as, s, rfl, rfl, h⟩
    · obtain ⟨done, b, rest, v, rfl, hdone, hb⟩ := ih h
      exact ⟨a :: done, b, rest, v, rfl, perform_bind_ok.2 ⟨x, u, hu, hdone⟩, hb⟩

/-! ## The state in the end -/

/-- What holds in the end of a chain, whether it ends after its first link or after its second. -/
theorem after_bind {P : σ → Prop} {x : Act σ α} {f : α → Act σ β} {s : σ}
    (hok : ∀ a t, x.perform s = (.ok a, t) → P ((f a).perform t).2)
    (herror : ∀ e t, x.perform s = (.error e, t) → P t) : P ((x >>= f).perform s).2 := by
  rcases h : x.perform s with ⟨r, t⟩
  cases r with
  | ok a =>
    rw [perform_bind_of_ok h]
    exact hok a t h
  | error e =>
    rw [perform_bind_of_error h]
    exact herror e t h

/-- A chain that begins with a look at the state. -/
theorem after_reading_bind {P : σ → Prop} {g : σ → Except Error α} {f : α → Act σ β} {s : σ}
    (hok : ∀ a, g s = .ok a → P ((f a).perform s).2) (herror : P s) :
    P ((reading g >>= f).perform s).2 :=
  after_bind
    (fun a t h => by
      obtain ⟨ha, rfl⟩ := Prod.mk.inj h
      exact hok a ha)
    (fun e t h => by
      obtain ⟨-, rfl⟩ := Prod.mk.inj h
      exact herror)

/-- A chain that begins with a computation. -/
theorem after_lift_bind {P : σ → Prop} {r : Except Error α} {f : α → Act σ β} {s : σ}
    (hok : ∀ a, r = .ok a → P ((f a).perform s).2) (herror : P s) :
    P ((lift r >>= f).perform s).2 :=
  after_reading_bind (g := fun _ => r) hok herror

/-! ## The way of the state -/

/-- Performed in `s`, the act changes the state by a sequence of changes of the kind `R`. -/
def Via (R : σ → σ → Prop) (x : Act σ α) (s : σ) : Prop := ReflTransGen R s (x.perform s).2

namespace Via

variable {R R' : σ → σ → Prop} {s : σ}

theorem pure (a : α) : Via R (Pure.pure a) s := .refl

theorem throw (e : Error) : Via R (MonadExcept.throw e : Act σ α) s := .refl

theorem lift (r : Except Error α) : Via R (Act.lift r) s := .refl

theorem reading (f : σ → Except Error α) : Via R (Act.reading f) s := .refl

/-- An act that is one change. -/
theorem of {f : σ → Except Error α × σ} (h : R s (f s).2) : Via R (Act.of f) s := .single h

/-- The second act goes on from where the first has ended, if it has succeeded. -/
theorem bind {x : Act σ α} {f : α → Act σ β} (hx : x.Via R s)
    (hf : ∀ a t, x.perform s = (.ok a, t) → (f a).Via R t) : (x >>= f).Via R s := by
  rw [Via] at hx ⊢
  rcases h : x.perform s with ⟨r, t⟩
  rw [h] at hx
  cases r with
  | ok a =>
    rw [perform_bind_of_ok h]
    exact hx.trans (hf a t h)
  | error e =>
    rw [perform_bind_of_error h]
    exact hx

theorem map {x : Act σ α} (f : α → β) (hx : x.Via R s) : (f <$> x).Via R s := by
  rw [Via, perform_map]
  exact hx

theorem blaming {x : Act σ α} (wrap : Error → Error) (hx : x.Via R s) :
    (x.blaming wrap).Via R s := hx

theorem outcome {x : Act σ α} (hx : x.Via R s) : x.outcome.Via R s := hx

/-- Changes of one kind may be seen as changes of another. -/
theorem mono {x : Act σ α} (h : ∀ s t, R s t → R' s t) (hx : x.Via R s) : x.Via R' s :=
  ReflTransGen.mono h _ _ hx

/-- An act on a part changes the whole as it changes the part. -/
theorem within {Q : τ → τ → Prop} {get : σ → τ} {set : τ → σ → σ} {x : Act τ α}
    (hget : set (get s) s = s) (hset : ∀ t u, Q t u → R (set t s) (set u s))
    (hx : x.Via Q (get s)) : (x.within get set).Via R s := by
  have h : ReflTransGen R (set (get s) s) (set (x.perform (get s)).2 s) :=
    ReflTransGen.lift (fun t => set t s) hset _ _ hx
  rw [hget] at h
  exact h

/-- What every change keeps is kept by the act. -/
theorem invariant {P : σ → Prop} {x : Act σ α} (hx : x.Via R s) (hR : ∀ s t, R s t → P s → P t)
    (hs : P s) : P (x.perform s).2 := by
  rw [Via] at hx
  generalize (x.perform s).2 = t at hx
  induction hx with
  | refl => exact hs
  | tail _ h ih => exact hR _ _ h ih

end Via

end EntitySession.Act
