import EntitySession.Proofs.Acts
import EntitySession.Transaction

/-!
# What a transaction does with its connection

Each of the three calls of a transaction is refused, with everything as it was, or makes one or two
calls of the connection and takes a status that tells how they have ended.  `Begins`, `Commits` and
`RollsBack` list the ways, with the calls that were made on each; a proof about transactions is a proof
about these ways.

Committing and rolling back are not alike in the second call.  A commit that fails leaves automatic
commit as it is.  A rollback turns it on in any case.
-/

set_option autoImplicit false

namespace EntitySession.Transaction

variable {δ : Type}

/-! ## Links of the chains -/

@[simp] theorem perform_current (s : Transaction × δ) : current.perform s = (.ok s.1.status, s) := rfl

theorem perform_call {α : Type} (f : ConnectionId → δ → Except Error α × δ) (s : Transaction × δ) :
    (call f).perform s = ((f s.1.connection s.2).1, (s.1, (f s.1.connection s.2).2)) := rfl

theorem perform_call_outcome {α : Type} (f : ConnectionId → δ → Except Error α × δ)
    (s : Transaction × δ) : (call f).outcome.perform s =
      (.ok (f s.1.connection s.2).1, (s.1, (f s.1.connection s.2).2)) := rfl

/-- The status that a transaction ends in, and what its caller is told. -/
theorem perform_finish (result : Except Error Unit) (done failed : TransactionStatus)
    (what : Undertaking) (s : Transaction × δ) : (finish result done failed what).perform s =
      (result.mapError (Fault.failed what).causedBy,
        ({ s.1 with status := if result.isOk then done else failed }, s.2)) := by
  cases result <;> rfl

variable [Database δ]

/-! ## Beginning -/

/-- The ways of a beginning. -/
inductive Begins (sessionOpen : Bool) : Transaction × δ → Except Error Unit → Transaction × δ → Prop
  | refused {s : Transaction × δ} {why : Error}
      (h : sessionOpen = false ∨ s.1.status = .active) : Begins sessionOpen s (.error why) s
  | begun {t : Transaction} {d d' : δ} (hstatus : t.status ≠ .active)
      (hoff : Database.setAutoCommit t.connection false d = (.ok (), d')) :
      Begins sessionOpen (t, d) (.ok ()) ({ t with status := .active }, d')
  /-- Automatic commit is turned on again, and nobody is told whether that succeeds. -/
  | failed {t : Transaction} {d d' : δ} {cause why : Error} (hstatus : t.status ≠ .active)
      (hoff : Database.setAutoCommit t.connection false d = (.error cause, d')) :
      Begins sessionOpen (t, d) (.error why) (t, (Database.setAutoCommit t.connection true d').2)

theorem begins_begin (sessionOpen : Bool) (s : Transaction × δ) :
    Begins sessionOpen s ((begin sessionOpen).perform s).1 ((begin sessionOpen).perform s).2 := by
  obtain ⟨t, d⟩ := s
  cases sessionOpen with
  | false => exact .refused (.inl rfl)
  | true =>
    change Begins true (t, d) ((current >>= _).perform (t, d)).1 ((current >>= _).perform (t, d)).2
    rw [Act.perform_bind_of_ok (perform_current _)]
    by_cases hactive : t.status = .active
    · rw [if_pos hactive]
      exact .refused (.inr hactive)
    · rw [if_neg hactive]
      change Begins true (t, d)
        (((call fun c => Database.setAutoCommit c false).outcome >>= _).perform (t, d)).1
        (((call fun c => Database.setAutoCommit c false).outcome >>= _).perform (t, d)).2
      rw [Act.perform_bind_of_ok (perform_call_outcome _ _)]
      rcases hoff : Database.setAutoCommit t.connection false d with ⟨r, d'⟩
      cases r with
      | ok a => exact .begun hactive hoff
      | error cause => exact .failed hactive hoff

/-! ## Committing -/

/-- The ways of a commit. -/
inductive Commits (sessionOpen : Bool) : Transaction × δ → Except Error Unit → Transaction × δ → Prop
  | refused {s : Transaction × δ} {why : Error}
      (h : sessionOpen = false ∨ s.1.status ≠ .active) : Commits sessionOpen s (.error why) s
  | committed {t : Transaction} {d d₁ d₂ : δ} (hopen : sessionOpen = true) (hstatus : t.status = .active)
      (hcommit : Database.commit t.connection d = (.ok (), d₁))
      (hon : Database.setAutoCommit t.connection true d₁ = (.ok (), d₂)) :
      Commits sessionOpen (t, d) (.ok ()) ({ t with status := .committed }, d₂)
  /-- The connection has committed, and automatic commit is not turned on. -/
  | acknowledged {t : Transaction} {d d₁ d₂ : δ} {cause why : Error} (hopen : sessionOpen = true)
      (hstatus : t.status = .active) (hcommit : Database.commit t.connection d = (.ok (), d₁))
      (hon : Database.setAutoCommit t.connection true d₁ = (.error cause, d₂)) :
      Commits sessionOpen (t, d) (.error why) ({ t with status := .failedCommit }, d₂)
  | failed {t : Transaction} {d d₁ : δ} {cause why : Error} (hopen : sessionOpen = true)
      (hstatus : t.status = .active)
      (hcommit : Database.commit t.connection d = (.error cause, d₁)) :
      Commits sessionOpen (t, d) (.error why) ({ t with status := .failedCommit }, d₁)

/-- The two calls that a commit makes, the second if the first succeeds. -/
def settle : Act (Transaction × δ) Unit := do
  call Database.commit
  call fun c => Database.setAutoCommit c true

theorem commits_commit (sessionOpen : Bool) (s : Transaction × δ) :
    Commits sessionOpen s ((commit sessionOpen).perform s).1 ((commit sessionOpen).perform s).2 := by
  obtain ⟨t, d⟩ := s
  cases sessionOpen with
  | false => exact .refused (.inl rfl)
  | true =>
    change Commits true (t, d) ((current >>= _).perform (t, d)).1 ((current >>= _).perform (t, d)).2
    rw [Act.perform_bind_of_ok (perform_current _)]
    by_cases hactive : t.status = .active
    · rw [if_neg (fun h => h hactive)]
      change Commits true (t, d) ((Act.outcome settle >>= _).perform (t, d)).1
        ((Act.outcome settle >>= _).perform (t, d)).2
      rcases hsettle : settle.perform (t, d) with ⟨r, u⟩
      have houtcome : (Act.outcome settle).perform (t, d) = (.ok r, u) := by
        rw [Act.perform_outcome, hsettle]
      rw [Act.perform_bind_of_ok houtcome, perform_finish]
      rw [settle, Act.perform_bind, perform_call] at hsettle
      rcases hcommit : Database.commit t.connection d with ⟨r', d₁⟩
      rw [hcommit] at hsettle
      cases r' with
      | error cause =>
        obtain ⟨rfl, rfl⟩ := Prod.mk.inj hsettle
        exact .failed rfl hactive hcommit
      | ok a =>
        dsimp only at hsettle
        rw [perform_call] at hsettle
        rcases hon : Database.setAutoCommit t.connection true d₁ with ⟨r', d₂⟩
        rw [hon] at hsettle
        obtain ⟨rfl, rfl⟩ := Prod.mk.inj hsettle
        cases r' with
        | ok a => exact .committed rfl hactive hcommit hon
        | error cause => exact .acknowledged rfl hactive hcommit hon
    · rw [if_pos hactive]
      exact .refused (.inr hactive)

/-! ## Rolling back -/

/-- Whether a transaction may be rolled back. -/
def MayRollBack (t : Transaction) : Prop := t.status = .active ∨ t.status = .failedCommit

/-- The ways of a rollback. -/
inductive RollsBack : Transaction × δ → Except Error Unit → Transaction × δ → Prop
  | refused {s : Transaction × δ} {why : Error} (h : ¬MayRollBack s.1) : RollsBack s (.error why) s
  | rolledBack {t : Transaction} {d d₁ d₂ : δ} (hmay : MayRollBack t)
      (hrollback : Database.rollback t.connection d = (.ok (), d₁))
      (hon : Database.setAutoCommit t.connection true d₁ = (.ok (), d₂)) :
      RollsBack (t, d) (.ok ()) ({ t with status := .rolledBack }, d₂)
  /-- The connection has rolled back, and automatic commit is not turned on. -/
  | stuck {t : Transaction} {d d₁ d₂ : δ} {cause why : Error} (hmay : MayRollBack t)
      (hrollback : Database.rollback t.connection d = (.ok (), d₁))
      (hon : Database.setAutoCommit t.connection true d₁ = (.error cause, d₂)) :
      RollsBack (t, d) (.error why) ({ t with status := .failedRollback }, d₂)
  /-- The connection has not rolled back, and automatic commit is turned on nevertheless. -/
  | relapsed {t : Transaction} {d d₁ d₂ : δ} {cause why : Error} (hmay : MayRollBack t)
      (hrollback : Database.rollback t.connection d = (.error cause, d₁))
      (hon : Database.setAutoCommit t.connection true d₁ = (.ok (), d₂)) :
      RollsBack (t, d) (.error why) ({ t with status := .failedRollback }, d₂)
  | failed {t : Transaction} {d d₁ d₂ : δ} {cause cause' why : Error} (hmay : MayRollBack t)
      (hrollback : Database.rollback t.connection d = (.error cause, d₁))
      (hon : Database.setAutoCommit t.connection true d₁ = (.error cause', d₂)) :
      RollsBack (t, d) (.error why) ({ t with status := .failedRollback }, d₂)

theorem rollsBack_rollback (s : Transaction × δ) :
    RollsBack s (rollback.perform s).1 (rollback.perform s).2 := by
  obtain ⟨t, d⟩ := s
  rw [rollback, Act.perform_bind_of_ok (perform_current _)]
  by_cases hmay : MayRollBack t
  · rw [if_neg (by rintro ⟨h, h'⟩; exact hmay.elim h h')]
    change RollsBack (t, d) (((call Database.rollback).outcome >>= _).perform (t, d)).1
      (((call Database.rollback).outcome >>= _).perform (t, d)).2
    rw [Act.perform_bind_of_ok (perform_call_outcome _ _),
      Act.perform_bind_of_ok (perform_call_outcome _ _), perform_finish]
    rcases hrollback : Database.rollback t.connection d with ⟨r, d₁⟩
    dsimp only
    rcases hon : Database.setAutoCommit t.connection true d₁ with ⟨r', d₂⟩
    cases r with
    | ok a =>
      cases r' with
      | ok a => exact .rolledBack hmay hrollback hon
      | error cause => exact .stuck hmay hrollback hon
    | error cause =>
      cases r' with
      | ok a => exact .relapsed hmay hrollback hon
      | error cause' => exact .failed hmay hrollback hon
  · rw [if_pos (not_or.1 hmay)]
    exact .refused hmay

end EntitySession.Transaction
