import EntitySession.Act
import Mathlib.Data.List.Basic

/-!
# Runs

A system moves from state to state, each time through an event.  A `Run` is a finite sequence of such
steps, together with its trace: the list of its moments, the earliest first.  A moment keeps the states
on both sides of its event, so that properties of a step are properties of a moment.

Where the events are calls of acts (`Act.Step`), a list of calls has one run, `Act.run_moments`.
-/

set_option autoImplicit false

namespace EntitySession

/-- One step that was made: the event, and the states before and after it. -/
structure Moment (σ ε : Type) where
  before : σ
  event : ε
  after : σ

variable {σ ε : Type}

/-- The runs by steps of a kind from a state to another, with their moments. -/
inductive Run (step : σ → ε → σ → Prop) : σ → List (Moment σ ε) → σ → Prop
  | nil (s : σ) : Run step s [] s
  | cons {s t u : σ} {e : ε} {trace : List (Moment σ ε)} (first : step s e t)
      (rest : Run step t trace u) : Run step s (⟨s, e, t⟩ :: trace) u

namespace Run

variable {step : σ → ε → σ → Prop} {s t : σ} {trace : List (Moment σ ε)}

/-- A single step is a run. -/
theorem single {e : ε} (h : step s e t) : Run step s [⟨s, e, t⟩] t := .cons h (.nil t)

/-- A run that consists of two parts has a state between them. -/
theorem append_iff {first second : List (Moment σ ε)} :
    Run step s (first ++ second) t ↔ ∃ u, Run step s first u ∧ Run step u second t := by
  induction first generalizing s with
  | nil =>
    constructor
    · exact fun h => ⟨s, .nil s, h⟩
    · rintro ⟨u, h, h'⟩
      cases h
      exact h'
  | cons x first ih =>
    constructor
    · intro h
      cases h with
      | cons hx hrest =>
        obtain ⟨u, h, h'⟩ := ih.1 hrest
        exact ⟨u, .cons hx h, h'⟩
    · rintro ⟨u, h, h'⟩
      cases h with
      | cons hx hrest => exact .cons hx (ih.2 ⟨u, hrest, h'⟩)

theorem trans {u : σ} {first second : List (Moment σ ε)} (h : Run step s first t)
    (h' : Run step t second u) : Run step s (first ++ second) u :=
  append_iff.2 ⟨t, h, h'⟩

/-- A run goes up to each of its moments, and on from there. -/
theorem split {first last : List (Moment σ ε)} {x : Moment σ ε}
    (h : Run step s (first ++ x :: last) t) :
    Run step s first x.before ∧ step x.before x.event x.after ∧ Run step x.after last t := by
  obtain ⟨u, hfirst, h⟩ := append_iff.1 h
  cases h with
  | cons hx hlast => exact ⟨hfirst, hx, hlast⟩

/-- Every moment of a run is a step. -/
theorem step_of_mem (h : Run step s trace t) {x : Moment σ ε} (hx : x ∈ trace) :
    step x.before x.event x.after := by
  induction h with
  | nil => cases hx
  | cons hfirst _ ih =>
    rcases List.mem_cons.1 hx with rfl | hx
    · exact hfirst
    · exact ih hx

/-- What every moment of a run keeps, the run keeps. -/
theorem invariant {P : σ → Prop} (h : Run step s trace t)
    (hstep : ∀ x ∈ trace, step x.before x.event x.after → P x.before → P x.after) (hs : P s) :
    P t := by
  induction h with
  | nil => exact hs
  | cons hfirst _ ih =>
    refine ih (fun x hx => hstep x (List.mem_cons_of_mem _ hx)) ?_
    exact hstep _ List.mem_cons_self hfirst hs

/-- What is known of a state by the moments that have led to it: if every step passes it on, it holds
in the end.  This is induction on a run from its end, where `Run` grows at its beginning. -/
theorem history {P : List (Moment σ ε) → σ → Prop} (h : Run step s trace t)
    (hstep : ∀ first x, step x.before x.event x.after → P first x.before → P (first ++ [x]) x.after)
    (hs : P [] s) : P trace t := by
  suffices hgeneral : ∀ first, P first s → P (first ++ trace) t from hgeneral [] hs
  clear hs
  induction h with
  | nil =>
    intro first hfirst
    rwa [List.append_nil]
  | cons hx _ ih =>
    intro first hfirst
    have hnext := ih _ (hstep first ⟨_, _, _⟩ hx hfirst)
    rwa [List.append_assoc] at hnext

end Run

/-! ## Calls -/

namespace Act

variable {γ : Type} (act : γ → Act σ Unit)

/-- A call, with its answer, as a step. -/
def Step (s : σ) (e : γ × Except Error Unit) (t : σ) : Prop := (act e.1).perform s = (e.2, t)

/-- The moments of calls that are made one after another, whatever they answer. -/
def moments : List γ → σ → List (Moment σ (γ × Except Error Unit))
  | [], _ => []
  | c :: calls, s =>
    ⟨s, (c, ((act c).perform s).1), ((act c).perform s).2⟩ :: moments calls ((act c).perform s).2

/-- The state in which calls that are made one after another end. -/
def ending (calls : List γ) (s : σ) : σ := calls.foldl (fun s c => ((act c).perform s).2) s

theorem run_moments (calls : List γ) (s : σ) :
    Run (Step act) s (moments act calls s) (ending act calls s) := by
  induction calls generalizing s with
  | nil => exact .nil s
  | cons c calls ih => exact .cons rfl (ih _)

end Act

end EntitySession
