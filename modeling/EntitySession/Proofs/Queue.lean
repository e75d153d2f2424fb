import EntitySession.Action
import EntitySession.Proofs.Acts
import EntitySession.Proofs.Results

/-!
# The order in which a queue is run

Which of several equally urgent actions runs first is left open.  What is certain is said here for
every stream of choices:

* `Queue.drain_drains`: a queue is drained, and nothing waits in it any more: all its actions have run, none
  after a less urgent one, or those before one that has failed, and the others were dropped;
* `Queue.drain_each`: to drain a queue is to run its actions one after another, in an order in which none
  comes after a less urgent one;
* `Queue.drain_ok`: if this did not fail, all of them have run;
* `Queue.drain_invariant`: whether it fails or not, nothing but its own actions has run.
-/

set_option autoImplicit false

namespace EntitySession.Queue

variable {σ : Type}

/-! ## Taking one out -/

/-- One element does not exceed another if its action is not more urgent. -/
theorem compare_ne_gt_iff {a b : Queued} :
    compare b a ≠ .gt ↔ a.action.priority ≤ b.action.priority := by
  change compare a.action.priority b.action.priority ≠ .gt ↔ _
  exact Std.LawfulLECmp.ne_gt_iff_le

/-- A position is that of a greatest element if no element exceeds the one that is there. -/
theorem mem_greatest {α : Type} [Ord α] {xs : List α} {i : Nat} :
    i ∈ greatest xs ↔ ∃ x, xs[i]? = some x ∧ ∀ y ∈ xs, compare y x ≠ .gt := by
  rw [greatest, List.mem_filter, List.mem_range]
  constructor
  · rintro ⟨-, h⟩
    split at h
    · next x hx => exact ⟨x, hx, by simpa using h⟩
    · cases h
  · rintro ⟨x, hx, h⟩
    obtain ⟨hi, -⟩ := List.getElem?_eq_some_iff.1 hx
    refine ⟨hi, ?_⟩
    rw [hx]
    simpa using h

/-- The greatest of the actions that wait are the most urgent ones, the order being reversed. -/
theorem mem_greatest_queued {as : List Action} {i : Nat} :
    i ∈ greatest (as.map Queued.mk) ↔ ∃ a, as[i]? = some a ∧ ∀ b ∈ as, a.priority ≤ b.priority := by
  simp only [mem_greatest, compare_ne_gt_iff, List.getElem?_map, Option.map_eq_some_iff,
    List.forall_mem_map, exists_exists_and_eq_and]

/-- Some action is at least as urgent as all the others. -/
theorem exists_mostUrgent {as : List Action} (h : as ≠ []) :
    ∃ a ∈ as, ∀ b ∈ as, a.priority ≤ b.priority := by
  induction as with
  | nil => exact absurd rfl h
  | cons a as ih =>
    by_cases has : as = []
    · subst has
      exact ⟨a, List.mem_cons_self, by simp⟩
    · obtain ⟨b, hb, hle⟩ := ih has
      rcases UInt8.le_total a.priority b.priority with hab | hba
      · refine ⟨a, List.mem_cons_self, List.forall_mem_cons.2 ⟨UInt8.le_refl _, fun c hc => ?_⟩⟩
        exact UInt8.le_trans hab (hle c hc)
      · exact ⟨b, List.mem_cons_of_mem _ hb, List.forall_mem_cons.2 ⟨hba, hle⟩⟩

theorem greatest_queued_ne_nil {as : List Action} (h : as ≠ []) : greatest (as.map Queued.mk) ≠ [] := by
  obtain ⟨a, ha, hle⟩ := exists_mostUrgent h
  obtain ⟨i, hi, rfl⟩ := List.getElem_of_mem ha
  have hmem : i ∈ greatest (as.map Queued.mk) :=
    mem_greatest_queued.2 ⟨as[i], List.getElem?_eq_getElem hi, hle⟩
  exact List.ne_nil_of_mem hmem

/-- What is taken out is one of the most urgent actions, and the others are left. -/
theorem pop?_eq_some {q q' : Queue} {c c' : Choices} {a : Action} (h : q.pop? c = some (a, q', c')) :
    (a :: q'.pending).Perm q.pending ∧ ∀ b ∈ q.pending, a.priority ≤ b.priority := by
  simp only [pop?] at h
  split at h
  · cases h
  · next i hi =>
    obtain ⟨b, hb, heq⟩ := Option.map_eq_some_iff.1 h
    cases heq
    obtain ⟨b', hb', hle⟩ := mem_greatest_queued.1 (List.mem_of_getElem? hi)
    rw [hb, Option.some.injEq] at hb'
    subst hb'
    obtain ⟨hlt, rfl⟩ := List.getElem?_eq_some_iff.1 hb
    exact ⟨Choices.cons_eraseIdx_perm _ _ hlt, hle⟩

/-- Nothing is taken out only of a queue in which nothing waits. -/
theorem pop?_eq_none {q : Queue} {c : Choices} (h : q.pop? c = none) : q.pending = [] := by
  refine Classical.byContradiction fun hne => ?_
  have hpos : 0 < (greatest (q.pending.map Queued.mk)).length :=
    List.length_pos_iff.2 (greatest_queued_ne_nil hne)
  simp only [pop?, Choices.draw] at h
  have hlt := Nat.mod_lt (c.stream c.used) hpos
  rw [List.getElem?_eq_getElem hlt] at h
  obtain ⟨a, ha, -⟩ := mem_greatest_queued.1 (List.getElem_mem hlt)
  simp only [ha] at h
  cases h

/-! ## Running them all -/

variable {run : Action → Act σ Unit}

/-- Some order of actions is that of their urgency. -/
theorem exists_sorted (as : List Action) : ∃ order : List Action, order.Perm as ∧
    order.Pairwise (fun a b => a.priority ≤ b.priority) := by
  refine ⟨as.mergeSort fun a b => a.priority ≤ b.priority, as.mergeSort_perm _, ?_⟩
  refine (List.pairwise_mergeSort (fun a b c hab hbc => ?_) (fun a b => ?_) as).imp of_decide_eq_true
  · exact decide_eq_true (UInt8.le_trans (of_decide_eq_true hab) (of_decide_eq_true hbc))
  · simpa using UInt8.le_total a.priority b.priority

/-- What it is to drain a queue in which the given actions wait: those that have run, in the order in which
they have run, the result, and the state in the end. -/
inductive Drains (run : Action → Act σ Unit) (pending : List Action) (s : σ) :
    List Action → Except Error Nat → σ → Prop
  /-- All have run, none of them after a less urgent one. -/
  | done {ran : List Action} {t : σ} (perm : ran.Perm pending)
      (sorted : ran.Pairwise fun a b => a.priority ≤ b.priority)
      (each : (Act.each run ran).perform s = (.ok (), t)) :
      Drains run pending s ran (.ok pending.length) t
  /-- One has failed.  None of those before it is less urgent, and none of those that were dropped is more
  urgent. -/
  | failed {before dropped : List Action} {a : Action} {u t : σ} {e : Error}
      (perm : (before ++ a :: dropped).Perm pending)
      (sorted : (before ++ [a]).Pairwise fun a b => a.priority ≤ b.priority)
      (later : ∀ b ∈ dropped, a.priority ≤ b.priority)
      (each : (Act.each run before).perform s = (.ok (), u))
      (fails : (run a).perform u = (.error e, t)) :
      Drains run pending s (before ++ [a]) (.error e) t

/-- The most urgent action runs first, and then the others are drained. -/
theorem Drains.cons {pending rest ran : List Action} {a : Action} {s u t : σ} {r : Except Error Nat}
    (hperm : (a :: rest).Perm pending) (hle : ∀ b ∈ pending, a.priority ≤ b.priority)
    (ha : (run a).perform s = (.ok (), u)) (h : Drains run rest u ran r t) :
    Drains run pending s (a :: ran) (r.map (1 + ·)) t := by
  have hfirst : ∀ b ∈ rest, a.priority ≤ b.priority := fun b hb =>
    hle b (hperm.subset (List.mem_cons_of_mem _ hb))
  cases h with
  | done perm sorted each =>
    have hlength : 1 + rest.length = pending.length := by
      rw [Nat.add_comm, ← List.length_cons, hperm.length_eq]
    change Drains run pending s _ (.ok (1 + rest.length)) t
    rw [hlength]
    refine .done ((perm.cons a).trans hperm) ?_ (Act.perform_bind_ok.2 ⟨(), u, ha, each⟩)
    exact List.pairwise_cons.2 ⟨fun b hb => hfirst b (perm.subset hb), sorted⟩
  | @failed before dropped b v _ e perm sorted later each fails =>
    change Drains run pending s ((a :: before) ++ [b]) (.error e) t
    refine .failed ((perm.cons a).trans hperm) ?_ later (Act.perform_bind_ok.2 ⟨(), u, ha, each⟩) fails
    refine List.pairwise_cons.2 ⟨fun b' hb' => hfirst b' (perm.subset ?_), sorted⟩
    rw [List.append_cons]
    exact List.mem_append_left _ hb'

theorem drainRounds_drains {rounds : Nat} {q : Queue} {c : Choices} {executed : Nat} {s : σ}
    (hrounds : q.pending.length ≤ rounds) :
    ∃ ran r, Drains run q.pending s ran r (drainRounds run rounds q c executed s).1.2 ∧
      (drainRounds run rounds q c executed s).1.1 = r.map (executed + ·) ∧
        (drainRounds run rounds q c executed s).2.1.pending = [] := by
  induction rounds generalizing q c executed s with
  | zero =>
    have hnil : q.pending = [] := List.eq_nil_of_length_eq_zero (Nat.le_zero.1 hrounds)
    exact ⟨[], _, .done (hnil ▸ .refl _) .nil rfl, by rw [hnil]; rfl, hnil⟩
  | succ rounds ih =>
    rw [drainRounds]
    split
    · next hpop =>
      have hnil := pop?_eq_none hpop
      exact ⟨[], _, .done (hnil ▸ .refl _) .nil rfl, by rw [hnil]; rfl, hnil⟩
    · next a q' d hpop =>
      obtain ⟨hperm, hle⟩ := pop?_eq_some hpop
      split
      · next u hu =>
        have hlength : q'.pending.length + 1 = q.pending.length := hperm.length_eq
        obtain ⟨ran, r, hdrains, hr, hleft⟩ := @ih q' d (executed + 1) u (by omega)
        refine ⟨a :: ran, _, hdrains.cons hperm hle hu, ?_, hleft⟩
        rw [hr]
        cases r with
        | ok n => exact congrArg Except.ok (Nat.add_assoc executed 1 n)
        | error e => rfl
      · next e u hu =>
        have hlater : ∀ b ∈ q'.pending, a.priority ≤ b.priority := fun b hb =>
          hle b (hperm.subset (List.mem_cons_of_mem _ hb))
        have hdrains : Drains run q.pending s ([] ++ [a]) (.error e) u :=
          .failed hperm (List.pairwise_singleton _ _) hlater rfl hu
        exact ⟨_, _, hdrains, rfl, rfl⟩

/-- Whatever is chosen, a queue is drained, and nothing waits in it any more. -/
theorem drain_drains (run : Action → Act σ Unit) (q : Queue) (c : Choices) (s : σ) :
    ∃ ran, Drains run q.pending s ran (q.drain run c s).1.1 (q.drain run c s).1.2 ∧
      (q.drain run c s).2.1.pending = [] := by
  obtain ⟨ran, r, hdrains, hr, hleft⟩ :=
    @drainRounds_drains σ run q.size q c 0 s (Nat.le_refl q.size)
  have hsame : (q.drain run c s).1.1 = r := by
    refine hr.trans ?_
    cases r with
    | ok n => exact congrArg Except.ok (Nat.zero_add n)
    | error e => rfl
  rw [hsame]
  exact ⟨ran, hdrains, hleft⟩

/-- To drain a queue is to run its actions one after another, in some order in which none comes after a
less urgent one. -/
theorem Drains.each {pending ran : List Action} {s t : σ} {r : Except Error Nat}
    (h : Drains run pending s ran r t) :
    ∃ order : List Action, order.Perm pending ∧
      order.Pairwise (fun a b => a.priority ≤ b.priority) ∧
        (r, t) = (((Act.each run order).perform s).1.map fun _ => pending.length,
          ((Act.each run order).perform s).2) := by
  cases h with
  | done perm sorted each => exact ⟨ran, perm, sorted, by rw [each]; rfl⟩
  | @failed before dropped a _ _ _ perm sorted later each fails =>
    -- those that were dropped may be thought of as coming after it in any order of urgency
    obtain ⟨rest, hrest, hsorted⟩ := exists_sorted dropped
    refine ⟨before ++ a :: rest, .trans (.append_left _ (hrest.cons a)) perm, ?_, ?_⟩
    · obtain ⟨hbefore, -, hle⟩ := List.pairwise_append.1 sorted
      refine List.pairwise_append.2 ⟨hbefore, List.pairwise_cons.2 ⟨?_, hsorted⟩, fun b hb b' hb' => ?_⟩
      · exact fun b hb => later b (hrest.subset hb)
      · have hba := hle b hb a List.mem_cons_self
        rcases List.mem_cons.1 hb' with rfl | hb'
        · exact hba
        · exact UInt8.le_trans hba (later b' (hrest.subset hb'))
    · rw [Act.perform_each_append each, Act.each, Act.perform_bind_of_error fails]
      rfl

theorem drain_each (run : Action → Act σ Unit) (q : Queue) (c : Choices) (s : σ) :
    ∃ order : List Action, order.Perm q.pending ∧
      order.Pairwise (fun a b => a.priority ≤ b.priority) ∧
        (q.drain run c s).1 = (((Act.each run order).perform s).1.map fun _ => q.size,
          ((Act.each run order).perform s).2) := by
  obtain ⟨ran, hdrains, -⟩ := drain_drains run q c s
  exact hdrains.each

/-- A queue that was drained without a failure has run all of its actions, the more urgent ones
first. -/
theorem drain_ok {q left : Queue} {c c' : Choices} {n : Nat} {s t : σ}
    (h : q.drain run c s = ((.ok n, t), left, c')) :
    ∃ order : List Action, order.Perm q.pending ∧
      order.Pairwise (fun a b => a.priority ≤ b.priority) ∧
        (Act.each run order).perform s = (.ok (), t) := by
  obtain ⟨order, hperm, hsorted, hrun⟩ := drain_each run q c s
  rw [h, Prod.mk.injEq] at hrun
  obtain ⟨u, hu, -⟩ := map_eq_ok.1 hrun.1.symm
  exact ⟨order, hperm, hsorted, Prod.ext hu hrun.2.symm⟩

/-- A queue whose draining has failed was run in order as far as that. -/
theorem drain_error {q left : Queue} {c c' : Choices} {e : Error} {s t : σ}
    (h : q.drain run c s = ((.error e, t), left, c')) :
    ∃ order : List Action, order.Perm q.pending ∧
      order.Pairwise (fun a b => a.priority ≤ b.priority) ∧
        (Act.each run order).perform s = (.error e, t) := by
  obtain ⟨order, hperm, hsorted, hrun⟩ := drain_each run q c s
  rw [h, Prod.mk.injEq] at hrun
  refine ⟨order, hperm, hsorted, Prod.ext ?_ hrun.2.symm⟩
  exact map_eq_error.1 hrun.1.symm

theorem drainRounds_invariant {P : σ → Prop} {rounds : Nat} {q : Queue} {c : Choices} {executed : Nat}
    {s : σ} (hrun : ∀ a ∈ q.pending, ∀ s, P s → P ((run a).perform s).2) (hs : P s) :
    P (drainRounds run rounds q c executed s).1.2 := by
  induction rounds generalizing q c executed s with
  | zero => exact hs
  | succ rounds ih =>
    rw [drainRounds]
    split
    · exact hs
    · next a q' d hpop =>
      obtain ⟨hperm, -⟩ := pop?_eq_some hpop
      have ha := hrun a (hperm.subset List.mem_cons_self) s hs
      split
      · next u hu =>
        rw [hu] at ha
        exact ih (fun b hb => hrun b (hperm.subset (List.mem_cons_of_mem _ hb))) ha
      · next e u hu =>
        rw [hu] at ha
        exact ha

/-- What each of its actions keeps is kept by draining a queue, even if it fails. -/
theorem drain_invariant {P : σ → Prop} {q : Queue} {c : Choices} {s : σ}
    (hrun : ∀ a ∈ q.pending, ∀ s, P s → P ((run a).perform s).2) (hs : P s) :
    P (q.drain run c s).1.2 :=
  drainRounds_invariant hrun hs

/-! ## A run in order -/

/-- A list in the order of urgency falls into a more and a less urgent part, wherever one draws the
line. -/
theorem exists_split {as : List Action} (h : as.Pairwise fun a b => a.priority ≤ b.priority)
    (p : UInt8) :
    ∃ front back, as = front ++ back ∧ (∀ a ∈ front, a.priority ≤ p) ∧ ∀ a ∈ back, p < a.priority := by
  induction as with
  | nil => exact ⟨[], [], rfl, by simp, by simp⟩
  | cons a as ih =>
    obtain ⟨ha, has⟩ := List.pairwise_cons.1 h
    by_cases hap : a.priority ≤ p
    · obtain ⟨front, back, rfl, hfront, hback⟩ := ih has
      exact ⟨a :: front, back, rfl, List.forall_mem_cons.2 ⟨hap, hfront⟩, hback⟩
    · have hlt : p < a.priority := UInt8.not_le.1 hap
      refine ⟨[], a :: as, rfl, by simp, List.forall_mem_cons.2 ⟨hlt, fun b hb => ?_⟩⟩
      exact UInt8.lt_of_lt_of_le hlt (ha b hb)

/-- Writes in the order of urgency are first inserts, then updates, then deletes. -/
theorem exists_stretches {as : List Action} (h : as.Pairwise fun a b => a.priority ≤ b.priority)
    (hwrites : ∀ a ∈ as, ∀ number name priority, a ≠ .outside number name priority) :
    ∃ inserts updates deletes, as = inserts ++ (updates ++ deletes) ∧
      (∀ a ∈ inserts, ∃ g entity i, a = .insert g entity i) ∧
      (∀ a ∈ updates, ∃ g k columns, a = .update g k columns) ∧
      ∀ a ∈ deletes, ∃ g k, a = .delete g k := by
  obtain ⟨inserts, others, rfl, hinserts, hothers⟩ := exists_split h 1
  obtain ⟨updates, deletes, rfl, hupdates, hdeletes⟩ := exists_split (List.pairwise_append.1 h).2.1 2
  refine ⟨inserts, updates, deletes, rfl, fun a ha => ?_, fun a ha => ?_, fun a ha => ?_⟩
  · have hp := hinserts a ha
    cases a with
    | insert g entity i => exact ⟨g, entity, i, rfl⟩
    | update => exact absurd hp (show ¬(2 : UInt8) ≤ 1 by decide)
    | delete => exact absurd hp (show ¬(3 : UInt8) ≤ 1 by decide)
    | outside => exact absurd rfl (hwrites _ (List.mem_append_left _ ha) _ _ _)
  · have hp := hothers a (List.mem_append_left _ ha)
    have hp' := hupdates a ha
    cases a with
    | insert => exact absurd hp (show ¬(1 : UInt8) < 1 by decide)
    | update g k columns => exact ⟨g, k, columns, rfl⟩
    | delete => exact absurd hp' (show ¬(3 : UInt8) ≤ 2 by decide)
    | outside =>
      exact absurd rfl (hwrites _ (List.mem_append_right _ (List.mem_append_left _ ha)) _ _ _)
  · have hp := hdeletes a ha
    cases a with
    | insert => exact absurd hp (show ¬(2 : UInt8) < 1 by decide)
    | update => exact absurd hp (show ¬(2 : UInt8) < 2 by decide)
    | delete g k => exact ⟨g, k, rfl⟩
    | outside =>
      exact absurd rfl (hwrites _ (List.mem_append_right _ (List.mem_append_right _ ha)) _ _ _)

end EntitySession.Queue
