import EntitySession.Proofs.Holdings
import EntitySession.Proofs.Runs
import EntitySession.Proofs.Transactions

/-!
# What the outcome of a transaction tells

A transaction that has ended reports how.  Its caller wants to know something else: which of the
statements that were sent meanwhile are durable.  `Transaction.fate_of_run` answers for every run of a
transaction that was begun with nothing pending, over every connection that keeps to the rules
(`Accountable`), whichever calls fail.

A transaction that is committed has made everything durable that succeeded while it was active.  One
that is rolled back, or has failed to, has made nothing durable, unless one of two things has happened.

* The connection has committed, and could not turn automatic commit on again.  The transaction takes its
  commit for failed (`acknowledged`), and no rollback takes back what the connection has kept.
* The connection could not roll back, and automatic commit was turned on all the same, which commits what
  is pending (`relapsed`).

Both calls of a commit count as its failure, and both calls of a rollback are made in any case; so these
are the only two ways.
-/

set_option autoImplicit false

namespace EntitySession

/-! ## Connections that keep to the rules -/

/-- A statement that a connection is sent. -/
inductive Dispatch where
  | query (sql : String) (values : List Value)
  | execute (sql : String) (values : List Value)
  | insert (sql : String) (values : List Value)
  deriving DecidableEq

/-- Sends a statement over a connection. -/
def Dispatch.send {δ : Type} [Database δ] (c : ConnectionId) :
    Dispatch → δ → Except Error Unit × δ
  | query sql values, d =>
    ((Database.query c sql values d).1.map fun _ => (), (Database.query c sql values d).2)
  | execute sql values, d =>
    ((Database.execute c sql values d).1.map fun _ => (), (Database.execute c sql values d).2)
  | insert sql values, d =>
    ((Database.insert c sql values d).1.map fun _ => (), (Database.insert c sql values d).2)

/-- The rules of a connection.  While automatic commit is off, statements change a working copy; it
becomes durable by a commit or when automatic commit is turned on, and is lost by a rollback.  A call
that fails has no effect.  Nothing is said about which calls fail. -/
structure Accountable (δ : Type) [Database δ] (c : ConnectionId) (D : Type) where
  /-- What a statement makes of the contents that it finds. -/
  effect : Dispatch → D → D
  /-- The contents that are durable, and those that are pending while automatic commit is off. -/
  view : δ → Holdings D
  send_atomic : ∀ d (x : Dispatch), Atomic view d (x.send c d) ((view d).change (effect x))
  off_atomic : ∀ d, Atomic view d (Database.setAutoCommit c false d) (view d).opened
  on_atomic : ∀ d, Atomic view d (Database.setAutoCommit c true d) (view d).kept
  commit_atomic : ∀ d, (view d).working.isSome = true →
    Atomic view d (Database.commit c d) (view d).kept.opened
  rollback_atomic : ∀ d, (view d).working.isSome = true →
    Atomic view d (Database.rollback c d) (view d).dropped.opened

namespace Transaction

/-! ## Calls -/

/-- What is called for while a transaction lasts, and afterwards. -/
inductive Call where
  | statement (x : Dispatch)
  | commit (sessionOpen : Bool)
  | rollback
  deriving DecidableEq

namespace Call

/-- The call.  Statements go over the connection of the transaction. -/
def act {δ : Type} [Database δ] : Call → Act (Transaction × δ) Unit
  | statement x => Transaction.call fun c => x.send c
  | commit sessionOpen => Transaction.commit sessionOpen
  | rollback => Transaction.rollback

/-- The statement that is sent. -/
def statement? : Call → Option Dispatch
  | statement x => some x
  | _ => none

end Call

/-- One call, with its answer. -/
abbrev Moment (δ : Type) : Type := EntitySession.Moment (Transaction × δ) (Call × Except Error Unit)

section Moments

variable {δ : Type}

/-- The statement that has succeeded in a moment, if the status that it has found is of a kind. -/
def success? (kind : TransactionStatus → Bool) (m : Moment δ) : Option Dispatch :=
  if m.event.2.isOk && kind m.before.1.status then m.event.1.statement? else none

/-- The statements that have succeeded while the status was of a kind. -/
def successes (kind : TransactionStatus → Bool) (trace : List (Moment δ)) : List Dispatch :=
  trace.filterMap (success? kind)

/-- Whether a status is neither that of an active transaction nor that of a failed commit. -/
def isOver (status : TransactionStatus) : Bool := status != .active && status != .failedCommit

variable [Database δ]

/-- The connection has committed, and the transaction takes its commit for failed. -/
def acknowledged (m : Moment δ) : Bool :=
  m.before.1.status == .active && m.after.1.status == .failedCommit &&
    (Database.commit m.before.1.connection m.before.2).1.isOk

/-- The connection has not rolled back, and has turned automatic commit on. -/
def relapsed (m : Moment δ) : Bool :=
  let rolledBack := Database.rollback m.before.1.connection m.before.2
  !isOver m.before.1.status && m.after.1.status == .failedRollback && !rolledBack.1.isOk &&
    (Database.setAutoCommit m.before.1.connection true rolledBack.2).1.isOk

/-! ## The tally of a run -/

/-- What there is to know of the moments of a run. -/
structure Tally where
  /-- The statements that have succeeded while the transaction was active. -/
  active : List Dispatch
  /-- Those that have succeeded after its commit had failed. -/
  failed : List Dispatch
  /-- Those that have succeeded when it was over. -/
  later : List Dispatch
  acknowledged : Bool
  relapsed : Bool

/-- Counts the moments of a run. -/
def tally (trace : List (Moment δ)) : Tally where
  active := successes (· == .active) trace
  failed := successes (· == .failedCommit) trace
  later := successes isOver trace
  acknowledged := trace.any acknowledged
  relapsed := trace.any relapsed

/-- One more statement has succeeded. -/
def Tally.sent (k : Tally) (status : TransactionStatus) (x : Dispatch) : Tally :=
  { k with
    active := k.active ++ if status == .active then [x] else []
    failed := k.failed ++ if status == .failedCommit then [x] else []
    later := k.later ++ if isOver status then [x] else [] }

namespace Tally

variable (k : Tally) (x : Dispatch)

omit [Database δ] in
theorem sent_active : k.sent .active x = { k with active := k.active ++ [x] } := by
  rw [sent]
  exact congrArg₂ (Tally.mk _ · · _ _) (List.append_nil _) (List.append_nil _)

theorem sent_failedCommit : k.sent .failedCommit x = { k with failed := k.failed ++ [x] } := by
  rw [sent]
  exact congrArg₂ (Tally.mk · _ · _ _) (List.append_nil _) (List.append_nil _)

theorem sent_of_isOver {status : TransactionStatus} (hover : isOver status = true) :
    k.sent status x = { k with later := k.later ++ [x] } := by
  obtain ⟨hactive, hfailed⟩ : (status == .active) = false ∧ (status == .failedCommit) = false := by
    simpa [isOver] using hover
  rw [sent, hover, hactive, hfailed]
  exact congrArg₂ (Tally.mk · · _ _ _) (List.append_nil _) (List.append_nil _)

end Tally

variable {trace : List (Moment δ)} {m : Moment δ}

omit [Database δ] in
theorem successes_append_single (kind : TransactionStatus → Bool) (trace : List (Moment δ))
    (m : Moment δ) :
    successes kind (trace ++ [m]) = successes kind trace ++ (success? kind m).toList := by
  rw [successes, List.filterMap_append]
  cases h : success? kind m <;> simp [successes, h]

/-- Without a change of the status, nothing was decided. -/
theorem acknowledged_of_same (hsame : m.after.1.status = m.before.1.status) :
    acknowledged m = false := by
  rw [acknowledged, hsame]
  cases m.before.1.status <;> rfl

theorem relapsed_of_same (hsame : m.after.1.status = m.before.1.status) : relapsed m = false := by
  rw [relapsed, hsame]
  cases m.before.1.status <;> rfl

theorem tally_of_same (hsame : m.after.1.status = m.before.1.status) :
    tally (trace ++ [m]) =
      { active := successes (· == .active) (trace ++ [m])
        failed := successes (· == .failedCommit) (trace ++ [m])
        later := successes isOver (trace ++ [m])
        acknowledged := trace.any acknowledged
        relapsed := trace.any relapsed } := by
  rw [tally, List.any_append, List.any_append]
  simp [acknowledged_of_same hsame, relapsed_of_same hsame]

theorem tally_statement_ok {x : Dispatch} (hevent : m.event = (.statement x, .ok ()))
    (hsame : m.after.1.status = m.before.1.status) :
    tally (trace ++ [m]) = (tally trace).sent m.before.1.status x := by
  have hsuccess (kind : TransactionStatus → Bool) :
      (success? kind m).toList = if kind m.before.1.status then [x] else [] := by
    rw [success?, hevent]
    cases kind m.before.1.status <;> rfl
  rw [tally_of_same hsame]
  simp only [successes_append_single, hsuccess]
  rfl

theorem tally_statement_error {x : Dispatch} {why : Error}
    (hevent : m.event = (.statement x, .error why))
    (hsame : m.after.1.status = m.before.1.status) : tally (trace ++ [m]) = tally trace := by
  have hsuccess (kind : TransactionStatus → Bool) : success? kind m = none := by
    rw [success?, hevent]
    rfl
  rw [tally_of_same hsame]
  simp only [successes_append_single, hsuccess, Option.toList_none, List.append_nil]
  rfl

/-- A call that sends no statement adds nothing but what it has decided. -/
theorem tally_decision (hcall : m.event.1.statement? = none) :
    tally (trace ++ [m]) =
      { tally trace with
        acknowledged := trace.any acknowledged || acknowledged m
        relapsed := trace.any relapsed || relapsed m } := by
  have hsuccess (kind : TransactionStatus → Bool) : success? kind m = none := by
    rw [success?, hcall, ite_self]
  rw [tally, List.any_append, List.any_append]
  simp only [successes_append_single, hsuccess, Option.toList_none, List.append_nil, List.any_cons,
    List.any_nil, Bool.or_false]
  rfl

theorem tally_undecided (hcall : m.event.1.statement? = none) (hack : acknowledged m = false)
    (hrel : relapsed m = false) : tally (trace ++ [m]) = tally trace := by
  rw [tally_decision hcall, hack, hrel, Bool.or_false, Bool.or_false]
  rfl

theorem tally_acknowledged (hcall : m.event.1.statement? = none) (hack : acknowledged m = true)
    (hrel : relapsed m = false) :
    tally (trace ++ [m]) = { tally trace with acknowledged := true } := by
  rw [tally_decision hcall, hack, hrel, Bool.or_true, Bool.or_false]
  rfl

theorem tally_relapsed (hcall : m.event.1.statement? = none) (hack : acknowledged m = false)
    (hrel : relapsed m = true) : tally (trace ++ [m]) = { tally trace with relapsed := true } := by
  rw [tally_decision hcall, hack, hrel, Bool.or_true, Bool.or_false]
  rfl

end Moments

/-! ## Where the statements stand -/

/-- Which statements are durable and which are pending, by the status of the transaction and by what has
happened. -/
inductive Standing (k : Tally) (h : Holdings (List Dispatch)) : TransactionStatus → Prop
  | active (hfailed : k.failed = []) (hover : k.later = []) (hack : k.acknowledged = false)
      (hrel : k.relapsed = false) (hh : h = ⟨[], some k.active⟩) : Standing k h .active
  | failedCommit (hover : k.later = []) (hrel : k.relapsed = false)
      (hh : h = ⟨if k.acknowledged then k.active else [], some (k.active ++ k.failed)⟩) :
      Standing k h .failedCommit
  | committed (hh : h = ⟨k.active ++ k.later, none⟩) : Standing k h .committed
  /-- What is sent later is durable if automatic commit is on. -/
  | undone {status : TransactionStatus} (hstatus : status = .rolledBack ∨ status = .failedRollback)
      (hrel : k.relapsed = false) (hdurable : h.durable =
        (if k.acknowledged then k.active else []) ++ if h.working.isSome then [] else k.later) :
      Standing k h status
  | relapsed (hrel : k.relapsed = true) (hh : h = ⟨k.active ++ k.failed ++ k.later, none⟩) :
      Standing k h .failedRollback

namespace Standing

variable {k : Tally} {status : TransactionStatus} {h : Holdings (List Dispatch)}

/-- One more statement succeeds, and changes what statements find. -/
theorem sent (hstands : Standing k h status) (x : Dispatch) :
    Standing (k.sent status x) (h.change (· ++ [x])) status := by
  cases hstands with
  | active hfailed hover hack hrel hh =>
    subst hh
    rw [Tally.sent_active]
    exact .active hfailed hover hack hrel rfl
  | failedCommit hover hrel hh =>
    subst hh
    rw [Tally.sent_failedCommit, Holdings.change_some, List.append_assoc]
    exact .failedCommit hover hrel rfl
  | committed hh =>
    subst hh
    rw [Tally.sent_of_isOver _ _ rfl, Holdings.change_none, List.append_assoc]
    exact .committed rfl
  | undone hstatus hrel hdurable =>
    have hover : isOver status = true := by rcases hstatus with rfl | rfl <;> rfl
    rw [Tally.sent_of_isOver _ _ hover]
    refine .undone hstatus hrel ?_
    obtain ⟨d, _ | w⟩ := h
    · have hd : d = (if k.acknowledged then k.active else []) ++ k.later := hdurable
      change d ++ [x] = (if k.acknowledged then k.active else []) ++ (k.later ++ [x])
      rw [hd, List.append_assoc]
    · exact hdurable
  | relapsed hrel hh =>
    subst hh
    rw [Tally.sent_of_isOver _ _ rfl, Holdings.change_none, List.append_assoc]
    exact .relapsed hrel rfl

/-! ### Committing -/

/-- A commit that is refused has changed nothing. -/
theorem refused (hstands : Standing k h .active) : Standing k h .failedCommit := by
  cases hstands with
  | active hfailed hover hack hrel hh =>
    refine .failedCommit hover hrel ?_
    rw [hh, hack, hfailed, List.append_nil]
    rfl
  | undone hstatus => rcases hstatus with h | h <;> cases h

/-- The connection commits, and everything that was sent is durable. -/
theorem acknowledged (hstands : Standing k h .active) :
    Standing { k with acknowledged := true } h.kept.opened .failedCommit := by
  cases hstands with
  | active hfailed hover hack hrel hh =>
    refine .failedCommit hover hrel ?_
    rw [hh, hfailed, List.append_nil]
    rfl
  | undone hstatus => rcases hstatus with h | h <;> cases h

/-- The connection commits, and turns automatic commit on. -/
theorem finished (hstands : Standing k h .active) : Standing k h.kept.opened.kept .committed := by
  cases hstands with
  | active hfailed hover hack hrel hh =>
    refine .committed ?_
    rw [hh, hover, List.append_nil]
    rfl
  | undone hstatus => rcases hstatus with h | h <;> cases h

/-! ### Rolling back -/

/-- While a transaction may be rolled back, everything is pending that was not acknowledged. -/
theorem pending (hstands : Standing k h status) (hmay : isOver status = false) :
    k.later = [] ∧ k.relapsed = false ∧
      h = ⟨if k.acknowledged then k.active else [], some (k.active ++ k.failed)⟩ := by
  cases hstands with
  | active hfailed hover hack hrel hh =>
    refine ⟨hover, hrel, ?_⟩
    rw [hh, hack, hfailed, List.append_nil]
    rfl
  | failedCommit hover hrel hh => exact ⟨hover, hrel, hh⟩
  | committed => cases hmay
  | undone hstatus => rcases hstatus with rfl | rfl <;> cases hmay
  | relapsed => cases hmay

/-- Whatever becomes of the working copy, what is durable stays as it is. -/
theorem undone_of_pending (hstands : Standing k h status) (hmay : isOver status = false)
    {status' : TransactionStatus} (hstatus : status' = .rolledBack ∨ status' = .failedRollback)
    {h' : Holdings (List Dispatch)} (hdurable : h'.durable = h.durable) : Standing k h' status' := by
  obtain ⟨hover, hrel, rfl⟩ := hstands.pending hmay
  refine .undone hstatus hrel ?_
  rw [hdurable, hover, ite_self, List.append_nil]

/-- Automatic commit is turned on, and everything becomes durable that was to be rolled back. -/
theorem relapsed_of_pending (hstands : Standing k h status) (hmay : isOver status = false) :
    Standing { k with relapsed := true } h.kept .failedRollback := by
  obtain ⟨hover, -, rfl⟩ := hstands.pending hmay
  refine .relapsed rfl ?_
  rw [hover, List.append_nil]
  rfl

theorem durable_of_committed (hstands : Standing k h .committed) :
    h.durable = k.active ++ k.later := by
  cases hstands with
  | committed hh => rw [hh]
  | undone hstatus => rcases hstatus with h | h <;> cases h

/-- After a rollback, what is durable depends on whether it was the undoing of what it was to undo. -/
theorem durable_of_undone (hstands : Standing k h status)
    (hstatus : status = .rolledBack ∨ status = .failedRollback) :
    h.durable = if k.relapsed then k.active ++ k.failed ++ k.later
      else (if k.acknowledged then k.active else []) ++ if h.working.isSome then [] else k.later := by
  cases hstands with
  | active | failedCommit | committed => rcases hstatus with h | h <;> cases h
  | undone _ hrel hdurable => rwa [hrel]
  | relapsed hrel hh => rw [hrel, hh, if_pos rfl]

theorem isSome_of_pending (hstands : Standing k h status) (hmay : isOver status = false) :
    h.working.isSome = true := by
  obtain ⟨-, -, rfl⟩ := hstands.pending hmay
  rfl

end Standing

/-! ## Every run -/

section Run

variable {δ D : Type} [Database δ] {c : ConnectionId} (R : Accountable δ c D) (base : D)

/-- What the connection holds is what the statements lead to that stand as they should. -/
structure Stands (trace : List (Moment δ)) (s : Transaction × δ) : Prop where
  connection : s.1.connection = c
  ledger : ∃ h, R.view s.2 = h.map (replay R.effect base) ∧ Standing (tally trace) h s.1.status

variable {R base} {trace : List (Moment δ)}

namespace Stands

variable {t : Transaction} {d : δ}

theorem statement (hs : Stands R base trace (t, d)) {x : Dispatch} {r : Except Error Unit} {d' : δ}
    (hsend : x.send c d = (r, d')) :
    Stands R base (trace ++ [⟨(t, d), (.statement x, r), (t, d')⟩]) (t, d') := by
  refine ⟨hs.connection, ?_⟩
  obtain ⟨h, hview, hstands⟩ := hs.ledger
  cases r with
  | ok a =>
    refine ⟨h.change (· ++ [x]), ?_, ?_⟩
    · rw [(R.send_atomic d x).of_ok hsend, Holdings.map_replay_change]
      exact congrArg _ hview
    · rw [tally_statement_ok rfl rfl]
      exact hstands.sent x
  | error why =>
    refine ⟨h, ?_, ?_⟩
    · rw [(R.send_atomic d x).of_error hsend]
      exact hview
    · rw [tally_statement_error rfl rfl]
      exact hstands

/-- Until the transaction is over, the connection has a working copy. -/
theorem ledger_of_pending (hs : Stands R base trace (t, d)) (hmay : isOver t.status = false) :
    ∃ h, R.view d = h.map (replay R.effect base) ∧ (R.view d).working.isSome = true ∧
      Standing (tally trace) h t.status := by
  obtain ⟨h, hview, hstands⟩ := hs.ledger
  have hview : R.view d = h.map (replay R.effect base) := hview
  refine ⟨h, hview, ?_, hstands⟩
  rw [hview, Holdings.isSome_map]
  exact hstands.isSome_of_pending hmay

/-- A call that is refused changes nothing. -/
theorem refused (hs : Stands R base trace (t, d)) {call : Call} {why : Error}
    (hcall : call.statement? = none) :
    Stands R base (trace ++ [⟨(t, d), (call, .error why), (t, d)⟩]) (t, d) := by
  refine ⟨hs.connection, ?_⟩
  rw [tally_undecided hcall (acknowledged_of_same rfl) (relapsed_of_same rfl)]
  exact hs.ledger

theorem commits (hs : Stands R base trace (t, d)) {sessionOpen : Bool} {r : Except Error Unit}
    {s : Transaction × δ} (hways : Commits sessionOpen (t, d) r s) :
    Stands R base (trace ++ [⟨(t, d), (.commit sessionOpen, r), s⟩]) s := by
  by_cases hactive : t.status = .active
  · obtain rfl : t.connection = c := hs.connection
    obtain ⟨h, hview, hsome, hstands⟩ := hs.ledger_of_pending (by rw [hactive]; rfl)
    have hstands : Standing (tally trace) h .active := hactive ▸ hstands
    -- what the connection holds once it has committed
    have hkept {d₁ : δ} (hcommit : Database.commit t.connection d = (.ok (), d₁)) :
        R.view d₁ = h.kept.opened.map (replay R.effect base) := by
      rw [(R.commit_atomic d hsome).of_ok hcommit, hview, Holdings.map_opened, Holdings.map_kept]
    cases hways with
    | refused => exact hs.refused rfl
    | committed hopen hstatus hcommit hon =>
      refine ⟨rfl, h.kept.opened.kept, ?_, ?_⟩
      · rw [(R.on_atomic _).of_ok hon, hkept hcommit, Holdings.map_kept]
      · rw [tally_undecided rfl (by simp [acknowledged]) (by simp [relapsed])]
        exact hstands.finished
    | acknowledged hopen hstatus hcommit hon =>
      refine ⟨rfl, h.kept.opened, ?_, ?_⟩
      · rw [(R.on_atomic _).of_error hon, hkept hcommit]
      · rw [tally_acknowledged rfl ?_ (by simp [relapsed])]
        · exact hstands.acknowledged
        · simp [Transaction.acknowledged, hstatus, hcommit, Except.isOk, Except.toBool]
    | failed hopen hstatus hcommit =>
      refine ⟨rfl, h, ?_, ?_⟩
      · rw [(R.commit_atomic d hsome).of_error hcommit, hview]
      · rw [tally_undecided rfl ?_ (by simp [relapsed])]
        · exact hstands.refused
        · simp [Transaction.acknowledged, hcommit, Except.isOk, Except.toBool]
  · cases hways with
    | refused => exact hs.refused rfl
    | committed _ hstatus | acknowledged _ hstatus | failed _ hstatus => exact absurd hstatus hactive

theorem rollsBack (hs : Stands R base trace (t, d)) {r : Except Error Unit} {s : Transaction × δ}
    (hways : RollsBack (t, d) r s) : Stands R base (trace ++ [⟨(t, d), (.rollback, r), s⟩]) s := by
  by_cases hmay : MayRollBack t
  · obtain rfl : t.connection = c := hs.connection
    have hover : isOver t.status = false := by rcases hmay with h | h <;> rw [h] <;> rfl
    obtain ⟨h, hview, hsome, hstands⟩ := hs.ledger_of_pending hover
    -- what the connection holds once it has rolled back
    have hdropped {d₁ : δ} (hrollback : Database.rollback t.connection d = (.ok (), d₁)) :
        R.view d₁ = h.dropped.opened.map (replay R.effect base) := by
      rw [(R.rollback_atomic d hsome).of_ok hrollback, hview, Holdings.map_opened, Holdings.map_dropped]
    cases hways with
    | refused => exact hs.refused rfl
    | rolledBack _ hrollback hon =>
      refine ⟨rfl, h.dropped.opened.kept, ?_, ?_⟩
      · rw [(R.on_atomic _).of_ok hon, hdropped hrollback, Holdings.map_kept]
      · rw [tally_undecided rfl (by simp [acknowledged]) (by simp [relapsed])]
        exact hstands.undone_of_pending hover (.inl rfl) rfl
    | stuck _ hrollback hon =>
      refine ⟨rfl, h.dropped.opened, ?_, ?_⟩
      · rw [(R.on_atomic _).of_error hon, hdropped hrollback]
      · rw [tally_undecided rfl (by simp [acknowledged]) ?_]
        · exact hstands.undone_of_pending hover (.inr rfl) rfl
        · simp [relapsed, hrollback, Except.isOk, Except.toBool]
    | relapsed _ hrollback hon =>
      refine ⟨rfl, h.kept, ?_, ?_⟩
      · rw [(R.on_atomic _).of_ok hon, (R.rollback_atomic d hsome).of_error hrollback, hview,
          Holdings.map_kept]
      · rw [tally_relapsed rfl (by simp [acknowledged]) ?_]
        · exact hstands.relapsed_of_pending hover
        · simp [Transaction.relapsed, hover, hrollback, hon, Except.isOk, Except.toBool]
    | failed _ hrollback hon =>
      refine ⟨rfl, h, ?_, ?_⟩
      · rw [(R.on_atomic _).of_error hon, (R.rollback_atomic d hsome).of_error hrollback, hview]
      · rw [tally_undecided rfl (by simp [acknowledged]) ?_]
        · exact hstands.undone_of_pending hover (.inr rfl) rfl
        · simp [relapsed, hrollback, hon, Except.isOk, Except.toBool]
  · cases hways with
    | refused => exact hs.refused rfl
    | rolledBack h | stuck h | relapsed h | failed h => exact absurd h hmay

theorem step {m : Moment δ} (hs : Stands R base trace m.before)
    (hstep : Act.Step Call.act m.before m.event m.after) : Stands R base (trace ++ [m]) m.after := by
  obtain ⟨⟨t, d⟩, ⟨call, r⟩, s⟩ := m
  cases call with
  | statement x =>
    obtain rfl : t.connection = c := hs.connection
    obtain ⟨hr, rfl⟩ := Prod.mk.inj ((perform_call (fun c => x.send c) (t, d)).symm.trans hstep)
    exact hs.statement (Prod.ext hr rfl)
  | commit sessionOpen =>
    have hways := commits_commit sessionOpen (t, d)
    rw [show (commit sessionOpen).perform (t, d) = (r, s) from hstep] at hways
    exact hs.commits hways
  | rollback =>
    have hways := rollsBack_rollback (t, d)
    rw [show rollback.perform (t, d) = (r, s) from hstep] at hways
    exact hs.rollsBack hways

/-- A transaction that was begun with nothing pending. -/
theorem begun {sessionOpen : Bool} {s : Transaction × δ} (hc : t.connection = c)
    (hnothing : (R.view d).current = (R.view d).durable)
    (hbegin : (begin sessionOpen).perform (t, d) = (.ok (), s)) :
    Stands R (R.view d).durable [] s := by
  obtain rfl := hc
  have hways := begins_begin sessionOpen (t, d)
  rw [hbegin] at hways
  cases hways with
  | begun hstatus hoff =>
    refine ⟨rfl, ⟨[], some []⟩, ?_, .active rfl rfl rfl rfl rfl⟩
    rw [(R.off_atomic d).of_ok hoff, Holdings.opened, hnothing]
    rfl

end Stands

/-- Which statements of a run are durable when the transaction is over. -/
structure Fate (R : Accountable δ c D) (base : D) (trace : List (Moment δ)) (s : Transaction × δ) :
    Prop where
  /-- After a commit, everything that was sent while the transaction was active, and later. -/
  committed : s.1.status = .committed → (R.view s.2).durable =
    replay R.effect base (successes (· == .active) trace ++ successes isOver trace)
  /-- After a rollback, at most what was sent later. -/
  undone : s.1.status = .rolledBack ∨ s.1.status = .failedRollback →
    trace.any acknowledged = false → trace.any relapsed = false →
    (R.view s.2).durable =
      replay R.effect base (if (R.view s.2).working.isSome then [] else successes isOver trace)
  /-- After a rollback that comes too late, also what was sent before the commit. -/
  acknowledged : s.1.status = .rolledBack ∨ s.1.status = .failedRollback →
    trace.any acknowledged = true → trace.any relapsed = false →
    (R.view s.2).durable = replay R.effect base (successes (· == .active) trace ++
      if (R.view s.2).working.isSome then [] else successes isOver trace)
  /-- After a rollback that the connection has refused before it turned automatic commit on,
  everything. -/
  relapsed : s.1.status = .rolledBack ∨ s.1.status = .failedRollback → trace.any relapsed = true →
    (R.view s.2).durable = replay R.effect base (successes (· == .active) trace ++
      successes (· == .failedCommit) trace ++ successes isOver trace)

theorem Stands.fate {s : Transaction × δ} (hs : Stands R base trace s) : Fate R base trace s := by
  obtain ⟨h, hview, hstands⟩ := hs.ledger
  have hdurable : (R.view s.2).durable = replay R.effect base h.durable :=
    congrArg Holdings.durable hview
  have hsome : (R.view s.2).working.isSome = h.working.isSome := by
    rw [hview, Holdings.isSome_map]
  refine ⟨fun hstatus => ?_, fun hstatus hack hrel => ?_, fun hstatus hack hrel => ?_,
    fun hstatus hrel => ?_⟩
  · rw [hstatus] at hstands
    rw [hdurable, hstands.durable_of_committed]
    rfl
  · have hwhole := hstands.durable_of_undone hstatus
    rw [show (tally trace).relapsed = false from hrel,
      show (tally trace).acknowledged = false from hack] at hwhole
    rw [hdurable, hwhole, hsome]
    rfl
  · have hwhole := hstands.durable_of_undone hstatus
    rw [show (tally trace).relapsed = false from hrel,
      show (tally trace).acknowledged = true from hack] at hwhole
    rw [hdurable, hwhole, hsome]
    rfl
  · have hwhole := hstands.durable_of_undone hstatus
    rw [show (tally trace).relapsed = true from hrel] at hwhole
    rw [hdurable, hwhole]
    rfl

/-- The outcome of a transaction that was begun with nothing pending tells which statements are durable,
but for the two ways in which a rollback comes too late or is the undoing of what it was to undo. -/
theorem fate_of_run (R : Accountable δ c D) {t : Transaction} {d : δ} (hc : t.connection = c)
    (hnothing : (R.view d).current = (R.view d).durable) {sessionOpen : Bool} {s : Transaction × δ}
    (hbegin : (begin sessionOpen).perform (t, d) = (.ok (), s)) {u : Transaction × δ}
    (hrun : Run (Act.Step Call.act) s trace u) : Fate R (R.view d).durable trace u := by
  refine Stands.fate (hrun.history (P := fun past u => Stands R (R.view d).durable past u) ?_ ?_)
  · exact fun past m hstep hpast => hpast.step hstep
  · exact Stands.begun hc hnothing hbegin

end Run

end Transaction

/-! ## Statements over a fickle connection

The contents of this database are the statements that have made them. -/

namespace Dispatched

/-- The error of a call that is refused. -/
def refusal : Error := (Fault.query .busy none "database is locked").error

/-- Writes a statement down. -/
def write {α : Type} (answer : α) (x : Dispatch) :
    Fickle (List Dispatch) → Except Error α × Fickle (List Dispatch) :=
  Fickle.attempt refusal fun h => (.ok answer, h.change (· ++ [x]))

instance : Database (Fickle (List Dispatch)) where
  query _ sql values := write [] (.query sql values)
  execute _ sql values := write 1 (.execute sql values)
  insert _ sql values := write ⟨1, []⟩ (.insert sql values)
  setAutoCommit _ on := Fickle.attempt refusal fun h => (.ok (), if on then h.kept else h.opened)
  commit _ := Fickle.attempt refusal fun h => (.ok (), h.kept.opened)
  rollback _ := Fickle.attempt refusal fun h => (.ok (), h.dropped.opened)
  close _ := Fickle.attempt refusal fun h => (.ok (), h)

/-- A list of statements with a working copy keeps to the rules, whatever is refused. -/
def accountable (c : ConnectionId) : Accountable (Fickle (List Dispatch)) c (List Dispatch) where
  effect x d := d ++ [x]
  view := Fickle.holdings
  send_atomic s x := by
    have hwrite {α : Type} (answer : α) :
        Atomic Fickle.holdings s (write answer x s) (s.holdings.change (· ++ [x])) :=
      Fickle.attempt_move_atomic _ _ _ s
    cases x with
    | query sql values => exact (hwrite []).map _
    | execute sql values => exact (hwrite 1).map _
    | insert sql values => exact (hwrite (InsertResult.mk 1 [])).map _
  off_atomic s := Fickle.attempt_move_atomic _ _ _ s
  on_atomic s := Fickle.attempt_move_atomic _ _ _ s
  commit_atomic s _ := Fickle.attempt_move_atomic _ _ _ s
  rollback_atomic s _ := Fickle.attempt_move_atomic _ _ _ s

end Dispatched

namespace Orders

open Transaction Dispatched

/-- A statement. -/
def order (item : String) : Dispatch := .insert "INSERT INTO orders (item) VALUES (?)" [.text item]

/-- A new transaction over an empty database, and which calls will be refused. -/
def untouched (refusals : List Bool) : Transaction × Fickle (List Dispatch) :=
  (Transaction.start 0 0, ⟨⟨[], none⟩, refusals⟩)

/-- The transaction has begun. -/
def begun (refusals : List Bool) : Transaction × Fickle (List Dispatch) :=
  ((begin true).perform (untouched refusals)).2

/-- The moments of the calls that follow. -/
def trace (refusals : List Bool) (calls : List Call) : List (Transaction.Moment (Fickle (List Dispatch))) :=
  Act.moments Call.act calls (begun refusals)

/-- What the calls lead to. -/
def outcome (refusals : List Bool) (calls : List Call) : Transaction × Fickle (List Dispatch) :=
  Act.ending Call.act calls (begun refusals)

/-- Orders around a commit that fails, and after the rollback. -/
def hesitant : List Call :=
  [.statement (order "tea"), .commit true, .statement (order "milk"), .rollback,
    .statement (order "rum")]

/-- The commit is refused and the rollback is not, so the last order is the only one. -/
theorem fate_of_run_undone :
    (begin true).perform (untouched [false, false, true]) = (.ok (), begun [false, false, true]) ∧
    (outcome [false, false, true] hesitant).1.status = .rolledBack ∧
    (trace [false, false, true] hesitant).any acknowledged = false ∧
    (trace [false, false, true] hesitant).any relapsed = false ∧
    ((accountable 0).view (outcome [false, false, true] hesitant).2).durable = [order "rum"] := by
  have hbegin : (begin true).perform (untouched [false, false, true]) =
      (.ok (), begun [false, false, true]) := rfl
  have hstatus : (outcome [false, false, true] hesitant).1.status = .rolledBack := by decide +kernel
  have hack : (trace [false, false, true] hesitant).any acknowledged = false := by decide +kernel
  have hrel : (trace [false, false, true] hesitant).any relapsed = false := by decide +kernel
  have hrun : Run (Act.Step Call.act) (begun [false, false, true]) (trace [false, false, true] hesitant)
      (outcome [false, false, true] hesitant) := Act.run_moments Call.act hesitant _
  have hfate := fate_of_run (accountable 0) rfl rfl hbegin hrun
  have hlater : successes isOver (trace [false, false, true] hesitant) = [order "rum"] := by
    decide +kernel
  have hon : ((accountable 0).view
      (outcome [false, false, true] hesitant).2).working.isSome = false := by decide +kernel
  have hdurable := hfate.undone (.inl hstatus) hack hrel
  rw [hlater, hon] at hdurable
  exact ⟨hbegin, hstatus, hack, hrel, hdurable⟩

/-- An order that is taken back. -/
def hasty : List Call := [.statement (order "tea"), .rollback]

/-- An order that is taken back after the commit has failed. -/
def belated : List Call := [.statement (order "tea"), .commit true, .rollback]

/-- An order is durable that was sent by an active transaction which is rolled back since, in two ways.
The connection refuses the rollback before it turns automatic commit on; or it commits, and then refuses
to turn automatic commit on. -/
theorem durable_after_rollback :
    ((begin true).perform (untouched [false, false, true]) = (.ok (), begun [false, false, true]) ∧
      (outcome [false, false, true] hasty).1.status = .failedRollback ∧
      successes (· == .active) (trace [false, false, true] hasty) = [order "tea"] ∧
      ((accountable 0).view (outcome [false, false, true] hasty).2).durable = [order "tea"]) ∧
    ((begin true).perform (untouched [false, false, false, true]) =
        (.ok (), begun [false, false, false, true]) ∧
      (outcome [false, false, false, true] belated).1.status = .rolledBack ∧
      successes (· == .active) (trace [false, false, false, true] belated) = [order "tea"] ∧
      ((accountable 0).view (outcome [false, false, false, true] belated).2).durable =
        [order "tea"]) := by
  refine ⟨⟨rfl, ?_, ?_, ?_⟩, ⟨rfl, ?_, ?_, ?_⟩⟩ <;> decide +kernel

end Orders

end EntitySession
