import EntitySession.Proofs.Connections
import EntitySession.Proofs.Runs
import EntitySession.Proofs.Transactions
import EntitySession.Rehearsal.Scene
import EntitySession.World

/-!
# At most one active transaction

A session hands out one transaction at a time: the present one until that is committed or rolled back,
and then another.  All of them turn the automatic commit of the same connection off and on.  A program
may keep the ones that have ended, and begin them again, since a beginning looks at nothing but whether
its own transaction is active.

As long as nobody does, at most one transaction of a session is active, and while one is, automatic
commit is off (`World.atMostOneActive_of_run`).  What keeps the others from interfering is that they
have ended: every transaction that has not is the one that the session hands out (`World.Sole`), and
whoever has ended can neither commit nor roll back.

Beginning an ended transaction breaks both.  `Errands.two_active` shows two transactions that are active
at once, and then one that is active while automatic commit is on, since the other was committed.
-/

set_option autoImplicit false

namespace EntitySession

/-- The automatic commit of a connection can be seen, and it is turned where it says that it was. -/
structure Switch (δ : Type) [Database δ] (c : ConnectionId) where
  isOn : δ → Bool
  turned : ∀ {d d' on}, Database.setAutoCommit c on d = (.ok (), d') → isOn d' = on

/-! ## One transaction -/

namespace Transaction

variable {δ : Type} [Database δ] {c : ConnectionId} (S : Switch δ c)

/-- What a call does to a transaction and to automatic commit: it changes something only if the
transaction has not ended, and if the transaction is active afterwards, automatic commit is off or
nothing has happened. -/
structure Careful (s t : Transaction × δ) : Prop where
  connection : t.1.connection = s.1.connection
  ended : s.1.status.isTerminal = true → t.1.status = s.1.status ∧ S.isOn t.2 = S.isOn s.2
  active : t.1.status = .active → S.isOn t.2 = false ∨ s.1.status = .active ∧ S.isOn t.2 = S.isOn s.2

variable {S} {s t : Transaction × δ} {r : Except Error Unit}

theorem Careful.refl (s : Transaction × δ) : Careful S s s :=
  ⟨rfl, fun _ => ⟨rfl, rfl⟩, fun hactive => .inr ⟨hactive, rfl⟩⟩

/-- A transaction that has not ended may change. -/
theorem Careful.of_new (hnew : s.1.status.isTerminal = false)
    (hconnection : t.1.connection = s.1.connection) (hactive : t.1.status = .active →
      S.isOn t.2 = false ∨ s.1.status = .active ∧ S.isOn t.2 = S.isOn s.2) : Careful S s t := by
  refine ⟨hconnection, fun hended => ?_, hactive⟩
  rw [hnew] at hended
  cases hended

theorem Begins.careful {sessionOpen : Bool} (hc : s.1.connection = c)
    (hnew : s.1.status.isTerminal = false) (h : Begins sessionOpen s r t) : Careful S s t := by
  subst hc
  cases h with
  | refused => exact .refl s
  | begun hstatus hoff => exact .of_new hnew rfl fun _ => .inl (S.turned hoff)
  | failed hstatus hoff => exact .of_new hnew rfl fun hactive => absurd hactive hstatus

theorem Commits.careful {sessionOpen : Bool} (h : Commits sessionOpen s r t) : Careful S s t := by
  cases h with
  | refused => exact .refl s
  | committed _ hstatus | acknowledged _ hstatus | failed _ hstatus =>
    exact .of_new (by rw [hstatus]; rfl) rfl nofun

theorem RollsBack.careful (h : RollsBack s r t) : Careful S s t := by
  cases h with
  | refused => exact .refl s
  | rolledBack hmay | stuck hmay | relapsed hmay | failed hmay =>
    exact .of_new (by rcases hmay with h | h <;> rw [h] <;> rfl) rfl nofun

end Transaction

/-! ## All transactions of a session -/

namespace World

variable {δ : Type} [Database δ] {c : ConnectionId} (S : Switch δ c) (n : Nat)

/-- What is done about the transactions of a session. -/
inductive Handling where
  /-- The session is asked for its transaction. -/
  | taken
  | begun (t : TransactionId)
  | committed (t : TransactionId)
  | rolledBack (t : TransactionId)
  /-- Anything else. -/
  | elsewhere

/-- The steps of a session and of its transactions.  What is done elsewhere leaves the transactions and
automatic commit alone. -/
inductive Handles : World δ → Handling → World δ → Prop
  | taken (w : World δ) : Handles w .taken ((transactionOf n).perform w).2
  | begun (w : World δ) (t : TransactionId) :
      Handles w (.begun t) ((onTransaction t Transaction.begin).perform w).2
  | committed (w : World δ) (t : TransactionId) :
      Handles w (.committed t) ((onTransaction t Transaction.commit).perform w).2
  | rolledBack (w : World δ) (t : TransactionId) :
      Handles w (.rolledBack t) ((onTransaction t fun _ => Transaction.rollback).perform w).2
  | elsewhere {w v : World δ} (htransactions : v.transactions = w.transactions)
      (hsession : ∀ s, w.sessions[n]? = some s → ∃ s', v.sessions[n]? = some s' ∧
        s'.transaction = s.transaction ∧ s'.gateway = s.gateway)
      (hon : S.isOn v.site.outside = S.isOn w.site.outside) : Handles w .elsewhere v

/-- Whether a transaction is begun that was committed or rolled back. -/
def reuses (m : Moment (World δ) Handling) : Bool :=
  match m.event with
  | .begun t => (m.before.transactions[t]?).any fun x => x.status.isTerminal
  | _ => false

/-- At most one transaction is active, and while one is, automatic commit is off. -/
structure AtMostOneActive (w : World δ) : Prop where
  unique : ∀ (t t' : TransactionId) (x x' : Transaction), w.transactions[t]? = some x →
    w.transactions[t']? = some x' → x.status = .active → x'.status = .active → t = t'
  manual : ∀ (t : TransactionId) (x : Transaction), w.transactions[t]? = some x → x.status = .active →
    S.isOn w.site.outside = false

/-- What makes it so: every transaction that has not ended is the present one of the session. -/
structure Sole (w : World δ) (s : Session) : Prop where
  session : w.sessions[n]? = some s
  gateway : s.gateway.connection = c
  connection : ∀ (t : TransactionId) (x : Transaction), w.transactions[t]? = some x → x.connection = c
  present : ∀ (t : TransactionId) (x : Transaction), w.transactions[t]? = some x →
    x.status.isTerminal = false → s.transaction = some t
  manual : ∀ (t : TransactionId) (x : Transaction), w.transactions[t]? = some x → x.status = .active →
    S.isOn w.site.outside = false

variable {S n} {w v : World δ} {s : Session}

/-- While a transaction is active, every other one has ended. -/
theorem Sole.ended_of_active (h : Sole S n w s) {t t' : TransactionId} {x x' : Transaction}
    (hx : w.transactions[t]? = some x) (hx' : w.transactions[t']? = some x')
    (hactive : x'.status = .active) (hne : t ≠ t') : x.status.isTerminal = true := by
  by_contra hnew
  rw [Bool.not_eq_true] at hnew
  have ht : s.transaction = some t := h.present t x hx hnew
  have ht' : s.transaction = some t' := h.present t' x' hx' (by rw [hactive]; rfl)
  rw [ht, Option.some.injEq] at ht'
  exact hne ht'

theorem Sole.atMostOneActive (h : Sole S n w s) : AtMostOneActive S w := by
  refine ⟨fun t t' x x' hx hx' hactive hactive' => ?_, h.manual⟩
  by_contra hne
  have hended : x.status.isTerminal = true := h.ended_of_active hx hx' hactive' hne
  rw [hactive] at hended
  cases hended

/-- After a transaction has changed, whoever looks one up finds that one or another. -/
theorem lookup_set {transactions : Array Transaction} {t t' : TransactionId} {x x' y : Transaction}
    (hx : transactions[t]? = some x) (hy : (transactions.setIfInBounds t x')[t']? = some y) :
    t' = t ∧ y = x' ∨ t' ≠ t ∧ transactions[t']? = some y := by
  rw [Array.getElem?_setIfInBounds] at hy
  by_cases htt : t = t'
  · subst htt
    obtain ⟨hbound, -⟩ := Array.getElem?_eq_some_iff.1 hx
    rw [if_pos rfl, if_pos hbound, Option.some.injEq] at hy
    exact .inl ⟨rfl, hy.symm⟩
  · rw [if_neg htt] at hy
    exact .inr ⟨fun h => htt h.symm, hy⟩

theorem lookup_push {transactions : Array Transaction} {t : TransactionId} {x y : Transaction}
    (hy : (transactions.push x)[t]? = some y) :
    t = transactions.size ∧ y = x ∨ transactions[t]? = some y := by
  rw [Array.getElem?_push] at hy
  split at hy
  · next ht => exact .inl ⟨ht, (Option.some.inj hy).symm⟩
  · exact .inr hy

/-- A careful act on one transaction keeps the others out. -/
theorem Sole.onTransaction {α : Type} (h : Sole S n w s) {t : TransactionId}
    {f : Bool → Act (Transaction × δ) α}
    (hf : ∀ x, w.transactions[t]? = some x → ∀ sessionOpen, Transaction.Careful S (x, w.site.outside)
      ((f sessionOpen).perform (x, w.site.outside)).2) :
    Sole S n ((onTransaction t f).perform w).2 s := by
  rw [World.onTransaction, Act.perform_of]
  rcases ht : w.transactions[t]? with _ | x
  · exact h
  · have hcareful := hf x ht (w.isOpenFor x)
    rcases hact : (f (w.isOpenFor x)).perform (x, w.site.outside) with ⟨r, x', outside⟩
    rw [hact] at hcareful
    simp only [hact]
    refine ⟨h.session, h.gateway, fun t' y hy => ?_, fun t' y hy hnew => ?_, fun t' y hy hactive => ?_⟩
    · rcases lookup_set ht hy with ⟨rfl, rfl⟩ | ⟨-, hy⟩
      · exact hcareful.connection.trans (h.connection t' x ht)
      · exact h.connection t' y hy
    · rcases lookup_set ht hy with ⟨rfl, rfl⟩ | ⟨-, hy⟩
      · refine h.present t' x ht ?_
        by_contra hended
        rw [Bool.not_eq_false] at hended
        rw [(hcareful.ended hended).1] at hnew
        exact Bool.false_ne_true (hnew.symm.trans hended)
      · exact h.present t' y hy hnew
    · rcases lookup_set ht hy with ⟨rfl, rfl⟩ | ⟨hne, hy⟩
      · rcases hcareful.active hactive with hoff | ⟨hwas, hsame⟩
        · exact hoff
        · exact hsame.trans (h.manual t' x ht hwas)
      · -- another transaction is active, so this one has ended and has done nothing
        have hended : x.status.isTerminal = true := h.ended_of_active ht hy hactive hne.symm
        exact (hcareful.ended hended).2.trans (h.manual t' y hy hactive)

/-- The session hands out its present transaction, or a new one if there is none that has not ended. -/
theorem Sole.transactionOf (h : Sole S n w s) :
    ∃ s', Sole S n ((transactionOf n).perform w).2 s' := by
  rw [World.transactionOf, Act.perform_of, h.session]
  dsimp only
  split
  · exact ⟨s, h⟩
  · next hnone =>
    refine ⟨{ s with transaction := some w.transactions.size }, ?_, h.gateway, fun t x hx => ?_,
      fun t x hx hnew => ?_, fun t x hx hactive => ?_⟩
    · obtain ⟨hbound, -⟩ := Array.getElem?_eq_some_iff.1 h.session
      rw [Array.getElem?_setIfInBounds, if_pos rfl, if_pos hbound]
    · rcases lookup_push hx with ⟨-, rfl⟩ | hx
      · exact h.gateway
      · exact h.connection t x hx
    · rcases lookup_push hx with ⟨rfl, -⟩ | hx
      · rfl
      · -- one that has not ended would have been handed out
        rw [h.present t x hx hnew, Option.bind_some, hx, Option.bind_some, hnew] at hnone
        cases hnone
    · rcases lookup_push hx with ⟨-, rfl⟩ | hx
      · cases hactive
      · exact h.manual t x hx hactive

theorem Sole.step {m : Moment (World δ) Handling} (h : Sole S n m.before s)
    (hstep : Handles S n m.before m.event m.after) (hreuse : reuses m = false) :
    ∃ s', Sole S n m.after s' := by
  obtain ⟨w, event, v⟩ := m
  have hstep : Handles S n w event v := hstep
  cases hstep with
  | taken => exact h.transactionOf
  | begun t =>
    refine ⟨s, h.onTransaction fun x hx sessionOpen => ?_⟩
    have hnew : x.status.isTerminal = false := by
      have hfresh : ((w.transactions[t]?).any fun x => x.status.isTerminal) = false := hreuse
      rw [hx] at hfresh
      exact hfresh
    exact (Transaction.begins_begin sessionOpen (x, w.site.outside)).careful (h.connection t x hx) hnew
  | committed t =>
    refine ⟨s, h.onTransaction fun x hx sessionOpen => ?_⟩
    exact (Transaction.commits_commit sessionOpen (x, w.site.outside)).careful
  | rolledBack t =>
    refine ⟨s, h.onTransaction fun x hx _ => ?_⟩
    exact (Transaction.rollsBack_rollback (x, w.site.outside)).careful
  | elsewhere htransactions hsession hon =>
    obtain ⟨s', hs', htransaction, hgateway⟩ := hsession s h.session
    refine ⟨s', hs', ?_, ?_, ?_, ?_⟩
    · rw [hgateway]
      exact h.gateway
    · rw [htransactions]
      exact h.connection
    · rw [htransactions, htransaction]
      exact h.present
    · rw [htransactions, hon]
      exact h.manual

/-- Over a session without a transaction, whatever is done about its transactions in whatever order: if
none is begun after it was committed or rolled back, at most one is active, and while one is, automatic
commit is off. -/
theorem atMostOneActive_of_run (hs : w.sessions[n]? = some s) (hc : s.gateway.connection = c)
    (hempty : w.transactions = #[]) {trace : List (Moment (World δ) Handling)}
    (hrun : Run (Handles S n) w trace v) (hreuse : ∀ m ∈ trace, reuses m = false) :
    AtMostOneActive S v := by
  have hstart : Sole S n w s := by
    refine ⟨hs, hc, ?_, ?_, ?_⟩ <;> simp [hempty]
  have hsole : ∃ s', Sole S n v s' := by
    refine hrun.invariant (P := fun w => ∃ s', Sole S n w s') ?_ ⟨s, hstart⟩
    rintro m hm hstep ⟨s', hs'⟩
    exact hs'.step hstep (hreuse m hm)
  obtain ⟨s', hs'⟩ := hsole
  exact hs'.atMostOneActive

/-! ### Runs that are made step by step -/

/-- Does something about the transactions of a session, or nothing. -/
def handle (n : Nat) : Handling → World δ → World δ
  | .taken, w => ((transactionOf n).perform w).2
  | .begun t, w => ((onTransaction t Transaction.begin).perform w).2
  | .committed t, w => ((onTransaction t Transaction.commit).perform w).2
  | .rolledBack t, w => ((onTransaction t fun _ => Transaction.rollback).perform w).2
  | .elsewhere, w => w

/-- The moments of one thing after another. -/
def handlings (n : Nat) : List Handling → World δ → List (Moment (World δ) Handling)
  | [], _ => []
  | e :: es, w => ⟨w, e, handle n e w⟩ :: handlings n es (handle n e w)

theorem run_handlings (S : Switch δ c) (n : Nat) (es : List Handling) (w : World δ) :
    Run (Handles S n) w (handlings n es w) (es.foldl (fun w e => handle n e w) w) := by
  induction es generalizing w with
  | nil => exact .nil w
  | cons e es ih =>
    have hstep : Handles S n w e (handle n e w) := by
      cases e with
      | taken => exact .taken w
      | begun t => exact .begun w t
      | committed t => exact .committed w t
      | rolledBack t => exact .rolledBack w t
      | elsewhere => exact .elsewhere rfl (fun s hs => ⟨s, hs, rfl, rfl⟩) rfl
    exact .cons hstep (ih _)

end World

/-! ## Connections with a switch -/

namespace Rehearsal

/-- Whether a connection of a rehearsal commits by itself. -/
def Endpoint.autoCommit : Endpoint → Bool
  | scripted x => x.autoCommit
  | sqlite x => x.autoCommit

namespace Scene

/-- Whether the connection with a number commits by itself, if there is one. -/
def isOn (c : ConnectionId) (s : Scene) : Bool := (s.connections[c]?).all Endpoint.autoCommit

theorem isOn_setConnection {c : ConnectionId} {s : Scene} (hbound : c < s.connections.size)
    (e : Endpoint) : isOn c (s.setConnection c e) = e.autoCommit := by
  rw [isOn, setConnection, Array.getElem?_setIfInBounds, if_pos rfl, if_pos hbound]
  rfl

/-- Scripted connections and connections to SQLite databases both turn automatic commit where they say
so. -/
def switch (c : ConnectionId) : Switch Scene c where
  isOn := isOn c
  turned := by
    intro s s' on h
    change talk c _ _ s = _ at h
    rw [talk] at h
    split at h
    · next x hx =>
      obtain ⟨hbound, -⟩ := Array.getElem?_eq_some_iff.1 hx
      by_cases hfails : x.failing.contains (.ofAutoCommit on) = true
      · rw [change, ScriptedConnection.perform, if_pos hfails] at h
        cases h
      · rw [change, ScriptedConnection.perform, if_neg hfails] at h
        obtain ⟨-, rfl⟩ := Prod.mk.inj h
        exact isOn_setConnection hbound _
    · next x hx =>
      obtain ⟨hbound, -⟩ := Array.getElem?_eq_some_iff.1 hx
      rcases hcall : (Sqlite.Connection.setAutoCommit on).perform (x, s.store) with ⟨r, x', store⟩
      rw [drive, hcall] at h
      obtain ⟨rfl, rfl⟩ := Prod.mk.inj h
      have hturned : x'.autoCommit = on := Sqlite.Connection.autoCommit_of_setAutoCommit hcall
      exact (isOn_setConnection hbound _).trans hturned
    · cases h

end Scene

end Rehearsal

/-! ## Two transactions of one session -/

namespace Errands

open World Rehearsal

/-- A session is open over a scripted connection. -/
def opened : World Scene :=
  ((openSession 0 false).perform
    (World.start { Scene.empty with connections := #[.scripted (.start "errands")] })).2

/-- A transaction is committed, and another one begins. -/
def proper : List Handling := [.taken, .begun 0, .committed 0, .taken, .begun 1]

/-- After that, the first one begins again. -/
def greedy : List Handling := proper ++ [.begun 0]

/-- What is done, and what it leads to. -/
def after (es : List Handling) : World Scene := es.foldl (fun w e => handle 0 e w) opened

theorem run_after (es : List Handling) :
    Run (Handles (Scene.switch 0) 0) opened (handlings 0 es opened) (after es) :=
  run_handlings (Scene.switch 0) 0 es opened

/-- Where the transactions stand, and whether the connection commits by itself. -/
def standing (w : World Scene) : List TransactionStatus × Bool :=
  (w.transactions.toList.map Transaction.status, (Scene.switch 0).isOn w.site.outside)

theorem atMostOneActive_proper :
    opened.transactions = #[] ∧ (∃ s, opened.sessions[0]? = some s ∧ s.gateway.connection = 0) ∧
    (handlings 0 proper opened).all (fun m => !reuses m) = true ∧
    standing (after proper) = ([.committed, .active], false) ∧
    AtMostOneActive (Scene.switch 0) (after proper) := by
  have hempty : opened.transactions = #[] := rfl
  have hs : opened.sessions[0]? = some (.start ⟨0, false⟩ (.session 0)) := rfl
  have hproper : (handlings 0 proper opened).all (fun m => !reuses m) = true := by decide +kernel
  have hreuse : ∀ m ∈ handlings 0 proper opened, reuses m = false := by
    simpa [List.all_eq_true] using hproper
  have hone := atMostOneActive_of_run hs rfl hempty (run_after proper) hreuse
  exact ⟨hempty, ⟨_, hs, rfl⟩, hproper, by decide +kernel, hone⟩

/-- Two transactions are active at once; and when one of them is committed, the other one is active while
automatic commit is on. -/
theorem two_active :
    standing opened = ([], true) ∧
    (∃ trace, Run (Handles (Scene.switch 0) 0) opened trace (after greedy)) ∧
    standing (after greedy) = ([.active, .active], false) ∧
    (∃ trace, Run (Handles (Scene.switch 0) 0) opened trace (after (greedy ++ [.committed 1]))) ∧
    standing (after (greedy ++ [.committed 1])) = ([.active, .committed], true) := by
  have hboth : standing (after greedy) = ([.active, .active], false) := by decide +kernel
  have hon : standing (after (greedy ++ [.committed 1])) = ([.active, .committed], true) := by
    decide +kernel
  exact ⟨by decide +kernel, ⟨_, run_after greedy⟩, hboth, ⟨_, run_after _⟩, hon⟩

end Errands

end EntitySession
