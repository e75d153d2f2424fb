import EntitySession.Proofs.AutoCommit

/-!
# What a connection remembers of its engine

A connection never asks its engine whether a transaction is open.  It remembers: one flag says that a
transaction is open, one that every statement is a transaction of its own.  Between the look at a flag
and its update the engine is called, and may fail.  If a flag were left wrong by such a failure, every
later commit would fail, or do nothing without saying so.

So this is the invariant (`Connection.Mirrors`): the flag is what the engine would answer, and while
automatic commit is on there is no transaction.  It is kept by every call, whatever fails, over every
engine in which transactions are begun and ended by the calls that are for it (`TransactionState`), as
long as no text does so by itself.

The engine is watched.  None of the demands that reach it begins a transaction within another, or ends
one that there is not (`Demand.Fits`), and a closed connection asks for nothing any more
(`Connection.Shut`).
-/

set_option autoImplicit false

namespace EntitySession.Sqlite

/-! ## Transactions and demands -/

/-- A demand has its place in a transaction or outside of one. -/
def Demand.Fits (inside : Bool) : Demand → Prop
  | begin => inside = false
  | commit | rollback => inside = true
  | _ => True

/-- Whether a transaction of a handle is open, and what decides about it: it is opened by a `BEGIN` that
succeeds, ended by a `COMMIT`, a `ROLLBACK` or by giving up the handle if they succeed, and by nothing
else, as long as the texts are plain.  Nothing is said about which calls fail. -/
structure TransactionState (ε : Type) [Engine ε] (i : HandleId) where
  /-- The texts that neither begin nor end a transaction.  Of others nothing is promised. -/
  plain : String → Prop
  isOpen : ε → Bool
  begin_atomic : ∀ e, isOpen e = false → Atomic isOpen e (Engine.begin i e) true
  commit_atomic : ∀ e, isOpen e = true → Atomic isOpen e (Engine.commit i e) false
  rollback_atomic : ∀ e, isOpen e = true → Atomic isOpen e (Engine.rollback i e) false
  close_atomic : ∀ e, Atomic isOpen e (Engine.close i e) false
  isOpen_prepare : ∀ e sql, plain sql → isOpen (Engine.prepare i sql e).2 = isOpen e
  isOpen_run : ∀ e sql cells, plain sql → isOpen (Engine.run i sql cells e).2 = isOpen e
  isOpen_exec : ∀ e sql, plain sql → isOpen (Engine.exec i sql e).2 = isOpen e

/-- An engine with a database and a working copy has a transaction open while there is a copy. -/
def Transactional.state {ε D : Type} [Engine ε] {i : HandleId} (T : Transactional ε i D) :
    TransactionState ε i where
  plain := T.plain
  isOpen e := (T.view e).working.isSome
  begin_atomic e he := (T.begin_atomic e (by simpa using he)).seen fun h => h.working.isSome
  commit_atomic e he := (T.commit_atomic e he).seen fun h => h.working.isSome
  rollback_atomic e he := (T.rollback_atomic e he).seen fun h => h.working.isSome
  close_atomic e := (T.close_atomic e).seen fun h => h.working.isSome
  isOpen_prepare e sql hplain := by rw [T.view_prepare e sql hplain]
  isOpen_run e sql cells hplain := by
    rw [T.view_run hplain]
    split
    · exact Holdings.isSome_change _
    · rfl
  isOpen_exec e sql hplain := by
    rw [T.view_executes (T.executes sql e) (T.plain_statements sql hplain), Holdings.isSome_changeEach]

namespace Connection

section Mirrors

variable {ε : Type} [Engine ε] {i : HandleId} (P : TransactionState ε i)

/-- The flags of a connection and its engine agree, and whatever the engine was asked had its place. -/
structure Mirrors (s : Connection × Watched ε) : Prop where
  handle : s.1.handle = i
  flag : s.1.inTransaction = P.isOpen s.2.engine
  alone : s.1.autoCommit = true → s.1.inTransaction = false
  log : ∀ x ∈ s.2.log, x.1 = i ∧ x.2.1.Fits (P.isOpen x.2.2)

variable {P} {s t : Connection × Watched ε} {c : Connection} {w : Watched ε}

namespace Mirrors

/-- What is asked next is written down after what was asked before. -/
theorem log_pass {α : Type} (h : Mirrors P (c, w)) (d : Demand)
    (hd : d.Fits (P.isOpen w.engine)) (f : ε → Except Report α × ε) :
    ∀ x ∈ (Watched.pass i d f w).2.log, x.1 = i ∧ x.2.1.Fits (P.isOpen x.2.2) :=
  List.forall_mem_append.2 ⟨h.log, List.forall_mem_singleton.2 ⟨rfl, hd⟩⟩

/-- The engine is asked for something after which the flag is right, and automatic commit is as before. -/
theorem pass {c' : Connection} {α : Type} {f : ε → Except Report α × ε}
    (h : Mirrors P (c, w)) (d : Demand) (hd : d.Fits (P.isOpen w.engine)) (hhandle : c'.handle = c.handle)
    (hflag : c'.inTransaction = P.isOpen (f w.engine).2)
    (halone : c'.autoCommit = true → c'.inTransaction = false) :
    Mirrors P (c', (Watched.pass i d f w).2) :=
  ⟨hhandle.trans h.handle, hflag, halone, h.log_pass d hd f⟩

/-- The engine is asked for something that leaves its transactions alone. -/
theorem pass_of_isOpen {α : Type} {f : ε → Except Report α × ε} (h : Mirrors P (c, w)) (d : Demand)
    (hd : d.Fits (P.isOpen w.engine)) (hopen : P.isOpen (f w.engine).2 = P.isOpen w.engine) :
    Mirrors P (c, (Watched.pass i d f w).2) :=
  h.pass d hd rfl (h.flag.trans hopen.symm) h.alone

/-! ### One call -/

/-- A transaction that there is is ended, or stays if that fails. -/
theorem finishes {sql : String} {how : HandleId → ε → Except Report Unit × ε}
    {r : Except Error Unit} (h : Mirrors P s) (d : Demand) (hd : d.Fits true)
    (hhow : ∀ e, P.isOpen e = true → Atomic P.isOpen e (how i e) false)
    (hfinish : Finishes sql (fun i => Watched.pass i d (how i)) s r t) :
    Mirrors P t ∧ (r = .ok () → t.1.inTransaction = false) := by
  obtain rfl : s.1.handle = i := h.handle
  cases hfinish with
  | none hin => exact ⟨h, fun _ => hin⟩
  | @ended c w w' hin hend =>
    obtain ⟨hr, rfl⟩ := Prod.mk.inj hend
    have hopen : P.isOpen w.engine = true := h.flag.symm.trans hin
    refine ⟨h.pass d (hopen ▸ hd) rfl ?_ fun _ => rfl, fun _ => rfl⟩
    exact ((hhow _ hopen).done _ hr).symm
  | @failed c w w' failure hin hend =>
    obtain ⟨hr, rfl⟩ := Prod.mk.inj hend
    have hopen : P.isOpen w.engine = true := h.flag.symm.trans hin
    exact ⟨h.pass_of_isOpen d (hopen ▸ hd) ((hhow _ hopen).failed _ hr), nofun⟩

theorem conclude {sql message : String} {how : HandleId → ε → Except Report Unit × ε}
    {r : Except Error Unit} (h : Mirrors P s) (d : Demand) (hd : d.Fits true)
    (hhow : ∀ e, P.isOpen e = true → Atomic P.isOpen e (how i e) false)
    (hcall : (conclude sql message fun i => Watched.pass i d (how i)).perform s = (r, t)) :
    Mirrors P t := by
  rcases conclude_cases hcall with ⟨rfl, -⟩ | ⟨-, hfinish⟩
  · exact h
  · exact (h.finishes d hd hhow hfinish).1

theorem setAutoCommit {on : Bool} {r : Except Error Unit} (h : Mirrors P s)
    (hcall : (setAutoCommit on).perform s = (r, t)) : Mirrors P t := by
  cases on with
  | false =>
    rcases setAutoCommit_false_cases hcall with ⟨rfl, -⟩ | ⟨-, rfl⟩
    · exact h
    · exact ⟨h.handle, h.flag, nofun, h.log⟩
  | true =>
    rcases setAutoCommit_true_cases hcall with ⟨rfl, -⟩ | ⟨u, hfinish, -, rfl⟩ | ⟨hfinish, -⟩
    · exact h
    · obtain ⟨hu, hin⟩ := h.finishes .commit rfl P.commit_atomic hfinish
      exact ⟨hu.handle, hu.flag, fun _ => hin rfl, hu.log⟩
    · exact (h.finishes .commit rfl P.commit_atomic hfinish).1

theorem close {r : Except Error Unit} (h : Mirrors P s) (hcall : close.perform s = (r, t)) :
    Mirrors P t := by
  obtain rfl : s.1.handle = i := h.handle
  rcases close_cases hcall with ⟨-, -, rfl⟩ | ⟨-, -, w, hengine, rfl⟩ | ⟨-, f, hengine, hc⟩
  · exact h
  · obtain ⟨hr, rfl⟩ := Prod.mk.inj hengine
    exact h.pass .close trivial rfl ((P.close_atomic _).done _ hr).symm fun _ => rfl
  · obtain ⟨hr, hw⟩ := Prod.mk.inj hengine
    have hend := h.pass_of_isOpen .close trivial ((P.close_atomic _).failed _ hr)
    obtain ⟨c, w⟩ := t
    obtain rfl : c = s.1 := hc
    obtain rfl : (Watched.pass _ .close (Engine.close _) s.2).2 = w := hw
    exact hend

/-- A transaction is begun only where there is none. -/
theorem enter {sql : String} {r : Except Error Unit} (h : Mirrors P s)
    (henter : (enter sql).perform s = (r, t)) : Mirrors P t := by
  obtain rfl : s.1.handle = i := h.handle
  have hways := enters_enter sql s
  rw [henter] at hways
  cases hways with
  | refused => exact h
  | ready => exact h
  | @begun c w w' _ _ hauto hin hbegin =>
    obtain ⟨hr, rfl⟩ := Prod.mk.inj hbegin
    have hopen : P.isOpen w.engine = false := h.flag.symm.trans hin
    refine h.pass .begin hopen rfl ((P.begin_atomic _ hopen).done _ hr).symm fun hon => ?_
    rw [hauto] at hon
    cases hon
  | @failed c w w' _ _ hin hbegin =>
    obtain ⟨hr, rfl⟩ := Prod.mk.inj hbegin
    have hopen : P.isOpen w.engine = false := h.flag.symm.trans hin
    exact h.pass_of_isOpen .begin hopen ((P.begin_atomic _ hopen).failed _ hr)

theorem prepare {sql : String} (h : Mirrors P (c, w)) (hplain : P.plain sql) :
    Mirrors P (c, (Engine.prepare c.handle sql w).2) := by
  obtain rfl : c.handle = i := h.handle
  exact h.pass_of_isOpen (.prepare sql) trivial (P.isOpen_prepare _ _ hplain)

theorem run {sql : String} (h : Mirrors P (c, w)) (hplain : P.plain sql) (cells : List Cell) :
    Mirrors P (c, (Engine.run c.handle sql cells w).2) := by
  obtain rfl : c.handle = i := h.handle
  exact h.pass_of_isOpen (.run ⟨sql, cells⟩) trivial (P.isOpen_run _ _ _ hplain)

/-- A statement leaves transactions alone. -/
theorem attempts {sql : String} {cells : List Cell} {b : Bool} (h : Mirrors P s) (hplain : P.plain sql)
    (hattempt : Attempts sql cells s b t) : Mirrors P t := by
  cases hattempt with
  | prepared => exact h.prepare hplain
  | failed hrun =>
    have hend := (h.prepare hplain).run hplain cells
    rwa [hrun] at hend
  | ran hrun =>
    have hend := (h.prepare hplain).run hplain cells
    rwa [hrun] at hend

theorem statement {sql : String} {parameters : List Value}
    {r : Except Error (List String × List (List Cell))} (h : Mirrors P s) (hplain : P.plain sql)
    (hrun : (Connection.run sql parameters).perform s = (r, t)) : Mirrors P t := by
  rcases run_cases hrun with ⟨-, err, henter⟩ | ⟨u, henter, hattempt⟩
  · exact h.enter henter
  · exact (h.enter henter).attempts hplain hattempt

theorem runScript {sql : String} {r : Except Error Unit} (h : Mirrors P s) (hplain : P.plain sql)
    (hrun : (runScript sql).perform s = (r, t)) : Mirrors P t := by
  rcases runScript_cases hrun with ⟨-, err, henter⟩ | ⟨⟨c, w⟩, henter, rfl⟩
  · exact h.enter henter
  · have hu := h.enter henter
    obtain rfl : c.handle = i := hu.handle
    exact hu.pass_of_isOpen (.exec sql) trivial (P.isOpen_exec _ _ hplain)

/-- Every call keeps the flags right, whether it succeeds or fails. -/
theorem step {event : Call × Except Error Unit} (h : Mirrors P s)
    (hplain : ∀ sql ∈ event.1.text?, P.plain sql) (hstep : Act.Step Call.act s event t) :
    Mirrors P t := by
  obtain ⟨call, r⟩ := event
  have hstatement (hcall : call.isStatement = true) : Mirrors P t := by
    obtain ⟨sql, parameters, r', htext, hrun, -⟩ := call.run_of_isStatement hcall hstep
    exact h.statement (hplain sql htext) hrun
  cases call with
  | query sql parameters => exact hstatement rfl
  | execute sql parameters => exact hstatement rfl
  | insert sql parameters => exact hstatement rfl
  | script sql => exact h.runScript (hplain sql rfl) hstep
  | setAutoCommit on => exact h.setAutoCommit hstep
  | commit =>
    have hcall : Connection.commit.perform s = (r, t) := hstep
    rw [commit_eq] at hcall
    exact h.conclude .commit rfl P.commit_atomic hcall
  | rollback =>
    have hcall : Connection.rollback.perform s = (r, t) := hstep
    rw [rollback_eq] at hcall
    exact h.conclude .rollback rfl P.rollback_atomic hcall
  | close => exact h.close hstep

theorem start {e : ε} (hnone : P.isOpen e = false) (path : String) :
    Mirrors P (Connection.start path i, ⟨e, []⟩) :=
  ⟨rfl, hnone.symm, fun _ => rfl, List.forall_mem_nil _⟩

end Mirrors

end Mirrors

/-! ## Closed connections -/

/-- The text that is told with the refusal of a call. -/
def Call.sql? : Call → Option String
  | commit => some "COMMIT"
  | rollback => some "ROLLBACK"
  | call => call.text?

/-- The error of using a closed connection. -/
def closedError (sql : Option String) : Error := (Fault.query .closed sql "connection is closed").error

section Shut

variable {ε : Type} [Engine ε] {s t : Connection × ε}

/-- A connection that answers nothing any more but that it is closed.  The engine is left as it was,
which is to say that nothing was asked of it. -/
structure Shut (s : Connection × ε) : Prop where
  isClosed : s.1.isClosed = true
  call : ∀ call : Call, call ≠ .close → call.act.perform s = (.error (closedError call.sql?), s)
  close : Connection.close.perform s = (.ok (), s)
  autoCommitNow : autoCommitNow.perform s = (.error (closedError none), s)
  changes : changes.perform s = (.error (closedError none), s)
  lastRowId : lastRowId.perform s = (.error (closedError none), s)

theorem perform_enter_of_closed (hclosed : s.1.isClosed = true) (sql : String) :
    (enter sql).perform s = (.error (closedError (some sql)), s) :=
  Act.perform_bind_of_error (perform_ensureOpen_of_closed hclosed _) _

theorem perform_run_of_closed (hclosed : s.1.isClosed = true) (sql : String) (parameters : List Value) :
    (run sql parameters).perform s = (.error (closedError (some sql)), s) :=
  Act.perform_bind_of_error (perform_enter_of_closed hclosed sql) _

theorem perform_execute_of_closed (hclosed : s.1.isClosed = true) (sql : String)
    (parameters : List Value) :
    (execute sql parameters).perform s = (.error (closedError (some sql)), s) :=
  Act.perform_bind_of_error (perform_run_of_closed hclosed sql parameters) _

theorem shut_of_closed (hclosed : s.1.isClosed = true) : Shut s where
  isClosed := hclosed
  call call hcall := by
    have hanswer {α : Type} {x : Act (Connection × ε) α} {e : Error}
        (hx : x.perform s = (.error e, s)) : ((fun _ => ()) <$> x).perform s = (.error e, s) := by
      rw [Act.perform_map, hx]
      rfl
    cases call with
    | query sql parameters =>
      exact hanswer (Act.perform_bind_of_error (perform_run_of_closed hclosed sql parameters) _)
    | execute sql parameters => exact hanswer (perform_execute_of_closed hclosed sql parameters)
    | insert sql parameters =>
      exact hanswer (Act.perform_bind_of_error (perform_execute_of_closed hclosed sql parameters) _)
    | script sql => exact Act.perform_bind_of_error (perform_enter_of_closed hclosed sql) _
    | setAutoCommit on => exact Act.perform_bind_of_error (perform_ensureOpen_of_closed hclosed _) _
    | commit => exact Act.perform_bind_of_error (perform_ensureOpen_of_closed hclosed _) _
    | rollback => exact Act.perform_bind_of_error (perform_ensureOpen_of_closed hclosed _) _
    | close => exact absurd rfl hcall
  close := by
    rw [Connection.close, Act.perform_bind_of_ok (perform_current s), hclosed]
    rfl
  autoCommitNow := Act.perform_bind_of_error (perform_ensureOpen_of_closed hclosed _) _
  changes := Act.perform_bind_of_error (perform_ensureOpen_of_closed hclosed _) _
  lastRowId := Act.perform_bind_of_error (perform_ensureOpen_of_closed hclosed _) _

/-- A call of a closed connection changes nothing. -/
theorem Shut.step {event : Call × Except Error Unit} (h : Shut s) (hstep : Act.Step Call.act s event t) :
    t = s := by
  obtain ⟨call, r⟩ := event
  by_cases hcall : call = .close
  · subst hcall
    exact (Prod.mk.inj (h.close.symm.trans hstep)).2.symm
  · exact (Prod.mk.inj ((h.call call hcall).symm.trans hstep)).2.symm

theorem isClosed_of_close (h : close.perform s = (.ok (), t)) : t.1.isClosed = true := by
  rcases close_cases h with ⟨hclosed, -, rfl⟩ | ⟨-, -, e, -, rfl⟩ | ⟨hr, -⟩
  · exact hclosed
  · rfl
  · cases hr

/-- A connection that was closed once is closed from then on. -/
theorem isClosed_of_run {s₀ : Connection × ε}
    {trace : List (CallMoment ε)} (hrun : Run (Act.Step Call.act) s₀ trace s) {m : CallMoment ε}
    (hm : m ∈ trace) (hclose : m.event = (.close, .ok ())) : s.1.isClosed = true := by
  obtain ⟨first, last, rfl⟩ := List.append_of_mem hm
  obtain ⟨-, hstep, hlast⟩ := hrun.split
  rw [hclose] at hstep
  refine hlast.invariant (P := fun s => s.1.isClosed = true) (fun x _ hx hclosed => ?_)
    (isClosed_of_close hstep)
  rwa [(shut_of_closed hclosed).step hx]

end Shut

/-! ## Every run -/

section Faithful

variable {ε : Type} [Engine ε] {i : HandleId}

/-- What is known of a connection and its engine after calls. -/
structure Faithful (P : TransactionState ε i) (trace : List (CallMoment (Watched ε)))
    (s : Connection × Watched ε) : Prop where
  /-- The connection knows whether a transaction is open. -/
  inTransaction : s.1.inTransaction = P.isOpen s.2.engine
  /-- While every statement is a transaction of its own, none is open. -/
  autoCommit : s.1.autoCommit = true → P.isOpen s.2.engine = false
  /-- No transaction was ever begun within another, and none was ended that was not open. -/
  demands : ∀ x ∈ s.2.log, x.1 = i ∧ x.2.1.Fits (P.isOpen x.2.2)
  /-- Once it has been closed it refuses everything. -/
  shut : ∀ m ∈ trace, m.event = (.close, .ok ()) → Shut s

/-- **The flags of a connection.**  Whatever a new connection is called for with plain texts, and
whichever calls of its engine fail, its flag says whether the engine has a transaction open; while automatic commit is on there
is none; transactions are begun only where there is none and ended only where there is one; and once it
was closed, every call but another `close` is refused without asking the engine for anything. -/
theorem faithful_of_run (P : TransactionState ε i) {path : String} {e : ε} (hnone : P.isOpen e = false)
    {trace : List (CallMoment (Watched ε))} {s : Connection × Watched ε}
    (hplain : ∀ m ∈ trace, ∀ sql ∈ m.event.1.text?, P.plain sql)
    (hrun : Run (Act.Step Call.act) (Connection.start path i, ⟨e, []⟩) trace s) :
    Faithful P trace s := by
  have hmirrors : Mirrors P s :=
    hrun.invariant (P := Mirrors P) (fun m hm hstep h => h.step (hplain m hm) hstep)
      (.start hnone path)
  exact
    { inTransaction := hmirrors.flag
      autoCommit := fun hauto => hmirrors.flag.symm.trans (hmirrors.alone hauto)
      demands := hmirrors.log
      shut := fun m hm hclose => shut_of_closed (isClosed_of_run hrun hm hclose) }

end Faithful

end Connection

/-! ### Notes that are hard to write -/

namespace Notes

/-- An empty database without a transaction, over which the second call is refused, which is a `BEGIN`,
the fifth, which is a `COMMIT`, and the seventh, when the handle is first to be given up. -/
def stubborn : Fickle Contents :=
  ⟨⟨[], none⟩, [false, true, false, false, true, false, true]⟩

/-- The transaction of the second note is begun at the second attempt, and rolled back when it cannot be
committed.  After that the connection is closed, at the second attempt, and used again. -/
def troubles : List Connection.Call :=
  [.script "CREATE TABLE notes (body TEXT)",
    .setAutoCommit false,
    .execute "INSERT INTO notes VALUES (?)" [.text "first"],
    .execute "INSERT INTO notes VALUES (?)" [.text "second"],
    .commit,
    .rollback,
    .rollback,
    .close,
    .close,
    .query "SELECT * FROM notes" [],
    .close]

/-- A connection whose engine is watched. -/
def watched : Connection × Watched (Fickle Contents) := (Connection.start "notes" 0, ⟨stubborn, []⟩)

/-- What is asked of the engine about transactions, in the end. -/
def asked : List Demand :=
  ((Act.ending Connection.Call.act troubles watched).2.log.map fun x => x.2.1).filter fun d =>
    match d with
    | .prepare _ | .run _ | .exec _ => false
    | _ => true

/-- Each `BEGIN` finds no transaction, the `COMMIT` and the `ROLLBACK` find one; the second `ROLLBACK`
and what follows the `close` that succeeds never get to the engine. -/
theorem faithful_of_run_troubles :
    (FickleEngine.transactional 0).state.isOpen stubborn = false ∧
      (∀ m ∈ Act.moments Connection.Call.act troubles watched, ∀ sql ∈ m.event.1.text?,
        (FickleEngine.transactional 0).state.plain sql) ∧
      Connection.Faithful (FickleEngine.transactional 0).state
        (Act.moments Connection.Call.act troubles watched)
        (Act.ending Connection.Call.act troubles watched) ∧
      (Act.moments Connection.Call.act troubles watched).map (fun m => m.event.2.isOk) =
        [true, true, false, true, false, true, true, false, true, false, true] ∧
      asked = [.begin, .begin, .commit, .rollback, .close, .close] := by
  have hnone : (FickleEngine.transactional 0).state.isOpen stubborn = false := rfl
  have hplain : ∀ m ∈ Act.moments Connection.Call.act troubles watched, ∀ sql ∈ m.event.1.text?,
      (FickleEngine.transactional 0).state.plain sql := fun _ _ _ _ => trivial
  have hrun : Run (Act.Step Connection.Call.act) watched
      (Act.moments Connection.Call.act troubles watched)
      (Act.ending Connection.Call.act troubles watched) :=
    Act.run_moments Connection.Call.act troubles watched
  exact ⟨hnone, hplain, Connection.faithful_of_run _ hnone hplain hrun, by decide +kernel,
    by decide +kernel⟩

end Notes

end EntitySession.Sqlite
