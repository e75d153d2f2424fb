import EntitySession.Proofs.Queue
import EntitySession.Proofs.Runs
import Mathlib.Algebra.Order.Group.Multiset
import Mathlib.Tactic.Abel

/-!
# The history of a queue

Actions are pushed to a queue, taken out of it, discarded and drained, in any order and as often as one
likes.  They have any priorities, and it is their own affair whether they succeed.  What is certain of every
such history, and for every stream of choices, is `Queue.accounted_of_run`:

* whatever is taken out was there, is among the most urgent that were there, and is there no longer;
* to drain is to run actions in the order of their urgency: all of them, or as far as one that fails, which
  is never before one that is more urgent (`Queue.Drains`);
* no action is lost or made twice: what has come is what was taken out, what has run, what was dropped and
  what still waits, and nothing is dropped but by `discard` and by a draining that fails.

That an action has run is seen by having each written down as it runs (`Queue.noting`), which changes
nothing else (`Queue.drain_noting`).
-/

set_option autoImplicit false

namespace EntitySession.Queue

variable {σ : Type} {run : Action → Act σ Unit}

/-! ## Writing down what runs -/

/-- The action, which is written down as it runs. -/
def noting (run : Action → Act σ Unit) (a : Action) : Act (List Action × σ) Unit :=
  .of fun s => (((run a).perform s.2).1, s.1 ++ [a], ((run a).perform s.2).2)

theorem each_noting_ok {as noted noted' : List Action} {s t : σ}
    (h : (Act.each (noting run) as).perform (noted, s) = (.ok (), noted', t)) :
    noted' = noted ++ as ∧ (Act.each run as).perform s = (.ok (), t) := by
  induction as generalizing noted s with
  | nil =>
    cases h
    exact ⟨(List.append_nil _).symm, rfl⟩
  | cons a as ih =>
    obtain ⟨_, u, hu, h⟩ := Act.perform_bind_ok.1 h
    obtain ⟨hr, rfl⟩ := Prod.mk.inj hu
    obtain ⟨rfl, has⟩ := ih h
    refine ⟨List.append_assoc .., Act.perform_bind_ok.2 ⟨(), _, Prod.ext hr rfl, has⟩⟩

/-- What was written down while a queue was drained is what has run. -/
theorem Drains.of_noting {pending noted noted' ran : List Action} {s t : σ} {r : Except Error Nat}
    (h : Drains (noting run) pending (noted, s) ran r (noted', t)) :
    noted' = noted ++ ran ∧ Drains run pending s ran r t := by
  cases h with
  | done perm sorted each =>
    obtain ⟨rfl, heach⟩ := each_noting_ok each
    exact ⟨rfl, .done perm sorted heach⟩
  | @failed before dropped a u _ e perm sorted later each fails =>
    obtain ⟨noted₁, u⟩ := u
    obtain ⟨rfl, heach⟩ := each_noting_ok each
    obtain ⟨hr, ht⟩ := Prod.mk.inj fails
    obtain ⟨rfl, rfl⟩ := Prod.mk.inj ht
    exact ⟨List.append_assoc .., .failed perm sorted later heach (Prod.ext hr rfl)⟩

theorem drainRounds_noting (rounds : Nat) (q : Queue) (c : Choices) (executed : Nat)
    (noted : List Action) (s : σ) :
    drainRounds run rounds q c executed s =
      (((drainRounds (noting run) rounds q c executed (noted, s)).1.1,
        (drainRounds (noting run) rounds q c executed (noted, s)).1.2.2),
        (drainRounds (noting run) rounds q c executed (noted, s)).2) := by
  induction rounds generalizing q c executed noted s with
  | zero => rfl
  | succ rounds ih =>
    rw [drainRounds, drainRounds]
    cases q.pop? c with
    | none => rfl
    | some taken =>
      obtain ⟨a, q', c'⟩ := taken
      have hnoting : (noting run a).perform (noted, s) =
          (((run a).perform s).1, noted ++ [a], ((run a).perform s).2) := rfl
      simp only [hnoting]
      rcases (run a).perform s with ⟨r, t⟩
      cases r with
      | ok => exact ih q' c' (executed + 1) (noted ++ [a]) t
      | error e => rfl

/-- Nothing else changes by it. -/
theorem drain_noting (run : Action → Act σ Unit) (q : Queue) (c : Choices) (noted : List Action) (s : σ) :
    q.drain run c s =
      (((q.drain (noting run) c (noted, s)).1.1, (q.drain (noting run) c (noted, s)).1.2.2),
        (q.drain (noting run) c (noted, s)).2) :=
  drainRounds_noting q.size q c 0 noted s

/-! ## A queue in use -/

/-- A queue, with the choices that are left and the state that its actions run on. -/
structure Station (σ : Type) where
  queue : Queue
  choices : Choices
  state : σ

/-- What a queue is used for. -/
inductive Use where
  | push (a : Action)
  | pop
  | discard
  | drain

/-- What has come of it. -/
inductive Event where
  | pushed (a : Action)
  /-- An action was taken out, or there was none. -/
  | popped (a : Option Action)
  | discarded (count : Nat)
  /-- Some actions have run, in this order. -/
  | drained (ran : List Action) (result : Except Error Nat)

namespace Event

/-- The actions that have come in. -/
def came : Event → List Action
  | pushed a => [a]
  | _ => []

/-- The actions that were handed out or have run, in this order. -/
def went : Event → List Action
  | popped a => a.toList
  | drained ran _ => ran
  | _ => []

/-- Whether no action was dropped. -/
def isLossless : Event → Bool
  | discarded count => count == 0
  | drained _ (.error _) => false
  | _ => true

end Event

/-- Uses a queue. -/
def Use.perform (run : Action → Act σ Unit) (x : Station σ) : Use → Event × Station σ
  | push a => (.pushed a, { x with queue := x.queue.push a })
  | pop =>
    match x.queue.pop? x.choices with
    | some (a, q, c) => (.popped (some a), { x with queue := q, choices := c })
    | none => (.popped none, x)
  | discard => (.discarded x.queue.discard.1, { x with queue := x.queue.discard.2 })
  | drain =>
    let ((r, ran, s), q, c) := x.queue.drain (noting run) x.choices ([], x.state)
    (.drained ran r, ⟨q, c, s⟩)

/-- A queue is used once. -/
def Step (run : Action → Act σ Unit) (x : Station σ) (e : Event) (y : Station σ) : Prop :=
  ∃ u : Use, u.perform run x = (e, y)

/-- A moment in the history of a queue. -/
abbrev Moment (σ : Type) : Type := EntitySession.Moment (Station σ) Event

/-- The moments of a queue that is used for one thing after another. -/
def moments (run : Action → Act σ Unit) : List Use → Station σ → List (Moment σ)
  | [], _ => []
  | u :: uses, x => ⟨x, (u.perform run x).1, (u.perform run x).2⟩ ::
      moments run uses (u.perform run x).2

theorem run_moments (run : Action → Act σ Unit) (uses : List Use) (x : Station σ) :
    Run (Step run) x (moments run uses x)
      (uses.foldl (fun x u => (u.perform run x).2) x) := by
  induction uses generalizing x with
  | nil => exact .nil x
  | cons u uses ih => exact .cons ⟨u, rfl⟩ (ih _)

/-! ## What a use of a queue does -/

/-- What is certain when a queue is used. -/
inductive Orderly (run : Action → Act σ Unit) (x : Station σ) : Event → Station σ → Prop
  | pushed {a : Action} {y : Station σ} (added : y.queue.pending.Perm (a :: x.queue.pending))
      (state : y.state = x.state) : Orderly run x (.pushed a) y
  /-- One of the most urgent actions was taken out, and the others are left. -/
  | popped {a : Action} {y : Station σ} (taken : (a :: y.queue.pending).Perm x.queue.pending)
      (urgent : ∀ b ∈ x.queue.pending, a.priority ≤ b.priority) (state : y.state = x.state) :
      Orderly run x (.popped (some a)) y
  | idle (empty : x.queue.pending = []) : Orderly run x (.popped none) x
  | discarded {y : Station σ} (empty : y.queue.pending = []) (state : y.state = x.state) :
      Orderly run x (.discarded x.queue.pending.length) y
  | drained {ran : List Action} {r : Except Error Nat} {y : Station σ}
      (drains : Drains run x.queue.pending x.state ran r y.state) (empty : y.queue.pending = [])
      (outcome : x.queue.drain run x.choices x.state = ((r, y.state), y.queue, y.choices)) :
      Orderly run x (.drained ran r) y

theorem Step.orderly {x y : Station σ} {e : Event} (h : Step run x e y) : Orderly run x e y := by
  obtain ⟨u, h⟩ := h
  cases u with
  | push a =>
    cases h
    exact .pushed (List.perm_append_singleton _ _) rfl
  | pop =>
    rw [Use.perform] at h
    split at h
    · next a q c hpop =>
      cases h
      obtain ⟨htaken, hurgent⟩ := pop?_eq_some hpop
      exact .popped htaken hurgent rfl
    · next hpop =>
      cases h
      exact .idle (pop?_eq_none hpop)
  | discard =>
    cases h
    exact .discarded rfl rfl
  | drain =>
    obtain ⟨ran, hdrains, hempty⟩ := drain_drains (noting run) x.queue x.choices ([], x.state)
    have houtcome := drain_noting run x.queue x.choices [] x.state
    rw [Use.perform] at h
    rcases hd : x.queue.drain (noting run) x.choices ([], x.state) with ⟨⟨r, noted, s⟩, q, c⟩
    rw [hd] at h hdrains hempty houtcome
    cases h
    obtain ⟨rfl, hdrains⟩ := hdrains.of_noting
    exact .drained hdrains hempty houtcome

/-- What is more urgent than an action that has failed has run before it. -/
theorem Drains.ran_of_lt {pending before : List Action} {a : Action} {s t : σ} {e : Error}
    (h : Drains run pending s (before ++ [a]) (.error e) t) {b : Action} (hb : b ∈ pending)
    (hba : b.priority < a.priority) : b ∈ before := by
  generalize hran : before ++ [a] = ran at h
  cases h with
  | @failed before' dropped a' _ _ _ perm _ later _ _ =>
    obtain ⟨rfl, ha⟩ := List.append_inj' hran rfl
    obtain rfl := List.singleton_inj.1 ha
    rcases List.mem_append.1 (perm.symm.subset hb) with hb | hb
    · exact hb
    · refine absurd hba (UInt8.not_lt.2 ?_)
      rcases List.mem_cons.1 hb with rfl | hb
      · exact UInt8.le_refl _
      · exact later b hb

/-- The actions that were there and those that have come are the ones that went, were dropped and are
left. -/
def Balanced (pending came went dropped left : List Action) : Prop :=
  (went ++ dropped ++ left).Perm (pending ++ came)

theorem Balanced.trans {pending came went dropped middle came' went' dropped' left : List Action}
    (h : Balanced pending came went dropped middle) (h' : Balanced middle came' went' dropped' left) :
    Balanced pending (came ++ came') (went ++ went') (dropped ++ dropped') left := by
  simp only [Balanced, ← Multiset.coe_eq_coe, ← Multiset.coe_add] at h h' ⊢
  calc ((went : Multiset Action) + went' + (dropped + dropped') + left)
      = went + dropped + (went' + dropped' + left) := by abel
    _ = went + dropped + middle + came' := by rw [h', add_assoc (_ + _)]
    _ = pending + (came + came') := by rw [h, add_assoc]

/-- A single use is balanced. -/
theorem Orderly.balanced {x y : Station σ} {e : Event} (h : Orderly run x e y) :
    ∃ dropped, Balanced x.queue.pending e.came e.went dropped y.queue.pending ∧
      (e.isLossless = true → dropped = []) := by
  cases h with
  | @pushed a _ added _ =>
    exact ⟨[], added.trans (List.perm_append_singleton a x.queue.pending).symm, fun _ => rfl⟩
  | popped taken _ _ => exact ⟨[], taken.trans (.of_eq (List.append_nil _).symm), fun _ => rfl⟩
  | idle empty => exact ⟨[], by rw [empty]; exact .refl _, fun _ => rfl⟩
  | discarded empty _ =>
    refine ⟨x.queue.pending, by rw [empty]; exact .refl _, fun h => ?_⟩
    exact List.eq_nil_of_length_eq_zero (by simpa [Event.isLossless] using h)
  | drained drains empty _ =>
    rw [empty]
    cases drains with
    | done perm _ _ =>
      exact ⟨[], by simpa [Balanced, Event.came, Event.went] using perm, fun _ => rfl⟩
    | @failed before dropped a _ _ _ perm _ _ _ _ =>
      exact ⟨dropped, by simpa [Balanced, Event.came, Event.went] using perm, nofun⟩

/-! ## What a history does -/

/-- A history in which every action is accounted for. -/
structure Accounted (run : Action → Act σ Unit) (x : Station σ) (trace : List (Moment σ))
    (y : Station σ) : Prop where
  orderly : ∀ m ∈ trace, Orderly run m.before m.event m.after
  /-- What is more urgent than an action that has failed has run before it. -/
  urgent : ∀ m ∈ trace, ∀ before a e, m.event = .drained (before ++ [a]) (.error e) →
    ∀ b ∈ m.before.queue.pending, b.priority < a.priority → b ∈ before
  /-- Each action that was there or has come was handed out, has run or was dropped once, or it waits; and
  none is dropped if nothing is discarded and no action fails. -/
  balanced : ∃ dropped, Balanced x.queue.pending (trace.flatMap fun m => m.event.came)
      (trace.flatMap fun m => m.event.went) dropped y.queue.pending ∧
    ((∀ m ∈ trace, m.event.isLossless = true) → dropped = [])

/-- Whatever a queue is used for, it neither loses nor repeats an action, and it hands out and runs the
more urgent ones first. -/
theorem accounted_of_run {x y : Station σ} {trace : List (Moment σ)} (h : Run (Step run) x trace y) :
    Accounted run x trace y := by
  have horderly : ∀ m ∈ trace, Orderly run m.before m.event m.after := fun m hm =>
    (h.step_of_mem hm).orderly
  refine ⟨horderly, fun m hm before a e he => ?_, ?_⟩
  · have hm := horderly m hm
    rw [he] at hm
    cases hm with
    | drained drains _ _ => exact fun b hb hba => drains.ran_of_lt hb hba
  · clear horderly
    induction h with
    | nil x => exact ⟨[], .of_eq (List.append_nil _).symm, fun _ => rfl⟩
    | cons first _ ih =>
      obtain ⟨dropped, hbalanced, hlossless⟩ := first.orderly.balanced
      obtain ⟨dropped', hbalanced', hlossless'⟩ := ih
      refine ⟨dropped ++ dropped', hbalanced.trans hbalanced', fun h => ?_⟩
      obtain ⟨hfirst, hrest⟩ := List.forall_mem_cons.1 h
      rw [hlossless hfirst, hlossless' hrest, List.append_nil]

end EntitySession.Queue

/-! ## A busy day -/

namespace EntitySession.Chores

open Queue

/-- A chore is put on the list of those that were done, but the one with the number 13 cannot be done. -/
def work : Action → Act (List String) Unit
  | .outside 13 _ _ => .of fun done => (.error .sessionClosed, done)
  | a => .of fun done => (.ok (), done ++ [a.describe])

/-- Nothing waits, and nothing was done.  Of several chores that are equally urgent, sometimes one is chosen
and sometimes another. -/
def morning : Station (List String) := ⟨.empty, ⟨fun n => n + 1, 0⟩, []⟩

/-- Six chores, some of them equally urgent and one of them twice.  One is handed out, and of those that are
then run the third fails.  What comes next is discarded, and the last two are done. -/
def plan : List Use :=
  [.push (.outside 1 "dishes" 2), .push (.outside 2 "letters" 255), .push (.outside 13 "roof" 2),
    .push (.outside 4 "dog" 0), .push (.outside 1 "dishes" 2), .push (.outside 5 "stove" 1), .pop, .drain,
    .pop, .push (.outside 6 "garden" 7), .discard, .push (.outside 7 "lamp" 9), .push (.outside 8 "door" 3),
    .drain]

/-- The moments of the day. -/
def day : List (Queue.Moment (List String)) := moments work plan morning

/-- The day in the evening. -/
def evening : Station (List String) := plan.foldl (fun x u => (u.perform work x).2) morning

/-- What was handed out or has run, turn by turn. -/
theorem accounted_of_run_day :
    Run (Step work) morning day evening ∧
      (day.flatMap fun m => m.event.went.map Action.describe) =
        ["dog", "stove", "dishes", "roof", "door", "lamp"] ∧
      evening.state = ["stove", "dishes", "door", "lamp"] ∧ Accounted work morning day evening := by
  have hrun : Run (Step work) morning day evening := run_moments work plan morning
  exact ⟨hrun, by decide, by decide, accounted_of_run hrun⟩

end EntitySession.Chores
