import EntitySession.Proofs.Connections
import EntitySession.Proofs.Demands
import EntitySession.Proofs.Holdings
import EntitySession.Proofs.Runs
import EntitySession.Sqlite.Store

/-!
# Automatic commit over an engine that has none

A connection keeps two flags and leaves the transactions to its engine.  What its callers are promised
is said without either: a statement lasts if it was run while automatic commit was on, or if the first
decision after it kept it.  `Connection.durable_eq_replay` proves the promise for every run of calls,
over every engine that has a database and, in a transaction, a working copy of it (`Transactional`),
with any of its calls failing.

The two sides meet in the accounts.  From the happenings of a run, `counted` reads the statements that
last, looking ahead for the decision about each; `counted true` reads those that would last if
everything that is undecided were kept.  The two lists are holdings of statements, and they stay in
step with the holdings of the engine (`Ledger`, and `Accounts` with the flags).  The crucial case is a
failure: a `BEGIN` that fails must leave no statement behind that waits, a `COMMIT` that fails must leave
all that wait.

Which statements were run is not told by the connection, which does not look into its texts, but by what
its engine was asked.  A script counts with those of its statements that have succeeded, and texts that
begin or end transactions themselves are left out (`Transactional.plain`).
-/

set_option autoImplicit false

namespace EntitySession.Sqlite

/-! ## Engines with a database and a working copy -/

/-- The promise of an engine about one of its handles: there are contents that last and, in a
transaction, a copy that statements work on; every call takes effect as a whole or not at all, but for a
script, which stops at the first of its statements that fails.  Nothing is said about which calls
fail. -/
structure Transactional (ε : Type) [Engine ε] (i : HandleId) (D : Type) extends Scripting ε i where
  /-- The texts that neither begin nor end a transaction.  Of others nothing is promised. -/
  plain : String → Prop
  plain_statements : ∀ sql, plain sql → ∀ x ∈ statements sql, plain x
  /-- What a statement makes of the contents that it finds. -/
  effect : Performed → D → D
  view : ε → Holdings D
  begin_atomic : ∀ e, (view e).working = none → Atomic view e (Engine.begin i e) (view e).opened
  commit_atomic : ∀ e, (view e).working.isSome = true →
    Atomic view e (Engine.commit i e) (view e).kept
  rollback_atomic : ∀ e, (view e).working.isSome = true →
    Atomic view e (Engine.rollback i e) (view e).dropped
  close_atomic : ∀ e, Atomic view e (Engine.close i e) (view e).dropped
  view_prepare : ∀ e sql, plain sql → view (Engine.prepare i sql e).2 = view e
  run_atomic : ∀ e x, plain x.sql →
    Atomic view e (Engine.run i x.sql x.cells e) ((view e).change (effect x))

namespace Transactional

variable {ε D : Type} [Engine ε] {i : HandleId} (T : Transactional ε i D)

/-- A statement has its effect if it succeeds. -/
theorem view_run {sql : String} (hsql : T.plain sql) (cells : List Cell) (e : ε) :
    T.view (Engine.run i sql cells e).2 =
      if Engine.succeeds i (⟨sql, cells⟩, e) then (T.view e).change (T.effect ⟨sql, cells⟩)
      else T.view e := by
  have hatomic := T.run_atomic e ⟨sql, cells⟩ hsql
  rcases hrun : Engine.run i sql cells e with ⟨report | rows, e₁⟩
  · rw [Engine.succeeds, hrun]
    exact hatomic.of_error hrun
  · rw [Engine.succeeds, hrun]
    exact hatomic.of_ok hrun

/-- Statements that are run one after another have their effects in this order, as far as they succeed. -/
theorem view_executes {texts : List String} {e e' : ε} {runs : List (Performed × ε)}
    {r : Except Report Unit} (h : Engine.Executes i texts e runs r e')
    (hplain : ∀ sql ∈ texts, T.plain sql) :
    T.view e' =
      (T.view e).changeEach T.effect ((runs.filter (Engine.succeeds i)).map Prod.fst) := by
  rw [Holdings.changeEach, List.foldl_map, List.foldl_filter]
  exact h.foldl (fun sql hmem e => T.view_prepare e sql (hplain sql hmem))
    fun sql hmem => T.view_run (hplain sql hmem) []

end Transactional

/-! ## What happens to statements -/

/-- What matters for the question which statements last. -/
inductive Happening where
  /-- A statement was run, with automatic commit on or off. -/
  | ran (alone : Bool) (x : Performed)
  /-- A transaction was ended, and what waited was kept or dropped. -/
  | ended (kept : Bool)
  deriving DecidableEq

namespace Happening

/-- Whether what waits is kept by what happens next.  If nothing decides about it, `undecided` is the
answer. -/
def keeps (undecided : Bool) : List Happening → Bool
  | [] => undecided
  | ran _ _ :: rest => keeps undecided rest
  | ended kept :: _ => kept

/-- The statements that last: those that were run alone, and those that were kept. -/
def counted (undecided : Bool) : List Happening → List Performed
  | [] => []
  | ran alone x :: rest =>
    if alone || keeps undecided rest then x :: counted undecided rest else counted undecided rest
  | ended _ :: rest => counted undecided rest

theorem keeps_append (undecided : Bool) (past later : List Happening) :
    keeps undecided (past ++ later) = keeps (keeps undecided later) past := by
  induction past with
  | nil => rfl
  | cons x past ih =>
    cases x with
    | ran alone x => exact ih
    | ended kept => rfl

/-- What comes later decides about what has waited until then. -/
theorem counted_append (undecided : Bool) (past later : List Happening) :
    counted undecided (past ++ later) =
      counted (keeps undecided later) past ++ counted undecided later := by
  induction past with
  | nil => rfl
  | cons x past ih =>
    cases x with
    | ran alone x =>
      rw [List.cons_append, counted, counted, keeps_append, ih]
      split <;> rfl
    | ended kept => exact ih

theorem counted_ran (undecided alone : Bool) (past : List Happening) (x : Performed) :
    counted undecided (past ++ [ran alone x]) =
      counted undecided past ++ if alone || undecided then [x] else [] :=
  counted_append undecided past [ran alone x]

theorem counted_ended (undecided kept : Bool) (past : List Happening) :
    counted undecided (past ++ [ended kept]) = counted kept past := by
  rw [counted_append]
  exact List.append_nil _

end Happening

namespace Connection

open Happening

/-! ## Calls -/

/-- What a connection can be called for. -/
inductive Call where
  | query (sql : String) (parameters : List Value)
  | execute (sql : String) (parameters : List Value)
  | insert (sql : String) (parameters : List Value)
  | script (sql : String)
  | setAutoCommit (on : Bool)
  | commit
  | rollback
  | close
  deriving DecidableEq

namespace Call

/-- The call, without what it answers when it succeeds. -/
def act {ε : Type} [Engine ε] : Call → Act (Connection × ε) Unit
  | query sql parameters => (fun _ => ()) <$> Connection.query sql parameters
  | execute sql parameters => (fun _ => ()) <$> Connection.execute sql parameters
  | insert sql parameters => (fun _ => ()) <$> Connection.insert sql parameters
  | script sql => runScript sql
  | setAutoCommit on => Connection.setAutoCommit on
  | commit => Connection.commit
  | rollback => Connection.rollback
  | close => Connection.close

/-- Whether the call runs one statement. -/
def isStatement : Call → Bool
  | query _ _ | execute _ _ | insert _ _ => true
  | _ => false

/-- The text that the call hands to the engine. -/
def text? : Call → Option String
  | query sql _ | execute sql _ | insert sql _ | script sql => some sql
  | _ => none

/-- What a call that succeeds decides about the statements that wait: whether they are kept. -/
def verdict? : Call → Option Bool
  | setAutoCommit true | commit => some true
  | rollback | close => some false
  | _ => none

/-- The calls for one statement all run it in the same way. -/
theorem run_of_isStatement {ε : Type} [Engine ε] {s t : Connection × ε} {call : Call}
    (hcall : call.isStatement = true) {r : Except Error Unit} (h : call.act.perform s = (r, t)) :
    ∃ sql parameters r', call.text? = some sql ∧
      (Connection.run sql parameters).perform s = (r', t) ∧ r'.isOk = r.isOk := by
  have hanswer {α : Type} (x : Except Error α) : (x.map fun _ => ()).isOk = x.isOk := by
    cases x <;> rfl
  cases call with
  | query sql parameters =>
    obtain ⟨r', hquery, rfl⟩ := Act.perform_map_eq h
    obtain ⟨x, hrun, hx⟩ := query_run hquery
    exact ⟨sql, parameters, x, rfl, hrun, hx.trans (hanswer r').symm⟩
  | execute sql parameters =>
    obtain ⟨r', hexecute, rfl⟩ := Act.perform_map_eq h
    obtain ⟨x, hrun, hx⟩ := execute_run hexecute
    exact ⟨sql, parameters, x, rfl, hrun, hx.trans (hanswer r').symm⟩
  | insert sql parameters =>
    obtain ⟨r', hinsert, rfl⟩ := Act.perform_map_eq h
    obtain ⟨x, hrun, hx⟩ := insert_run hinsert
    exact ⟨sql, parameters, x, rfl, hrun, hx.trans (hanswer r').symm⟩
  | _ => cases hcall

end Call

/-- One call of a connection. -/
abbrev CallMoment (ε : Type) : Type := EntitySession.Moment (Connection × ε) (Call × Except Error Unit)

/-! ## What happens in a call -/

section Moments

variable {ε : Type} [Engine ε] {i : HandleId} (T : Scripting ε i)

/-- The statements that were run with success in a call. -/
def performed (m : CallMoment (Watched ε)) : List Performed :=
  T.succeeded (m.after.2.log.drop m.before.2.log.length)

/-- What a call that was answered has decided. -/
def decided (call : Call) (answer : Except Error Unit) : List Happening :=
  if answer.isOk then (call.verdict?.map ended).toList else []

/-- What happens in a call. -/
def happenings (m : CallMoment (Watched ε)) : List Happening :=
  (performed T m).map (ran m.before.1.autoCommit) ++ decided m.event.1 m.event.2

/-- On the way from one state to another these statements were run with success. -/
def Logs (s : Connection × Watched ε) (news : List Performed) (t : Connection × Watched ε) : Prop :=
  ∃ demands, t.2.log = s.2.log ++ demands ∧ T.succeeded demands = news

variable {T} {s t u : Connection × Watched ε} {news news' : List Performed}

theorem logs_nil (h : t.2.log = s.2.log) : Logs T s [] t := ⟨[], by rw [h, List.append_nil], rfl⟩

theorem Logs.trans (h : Logs T s news t) (h' : Logs T t news' u) : Logs T s (news ++ news') u := by
  obtain ⟨demands, ht, rfl⟩ := h
  obtain ⟨demands', hu, rfl⟩ := h'
  exact ⟨demands ++ demands', by rw [hu, ht, List.append_assoc], T.succeeded_append _ _⟩

/-- A single demand. -/
theorem logs_pass {α : Type} (c c' : Connection) (d : Demand) (f : ε → Except Report α × ε)
    (w : Watched ε) : Logs T (c, w) (T.succeeded [(i, d, w.engine)]) (c', (Watched.pass i d f w).2) :=
  ⟨_, rfl, rfl⟩

/-- A single demand that runs nothing. -/
theorem logs_pass_nil {α : Type} (c c' : Connection) {d : Demand} (f : ε → Except Report α × ε)
    {w : Watched ε} (hd : T.runs (i, d, w.engine) = []) :
    Logs T (c, w) [] (c', (Watched.pass i d f w).2) :=
  T.succeeded_singleton_of_runs hd ▸ logs_pass c c' d f w

theorem Logs.performed {m : CallMoment (Watched ε)} (h : Logs T m.before news m.after) :
    performed T m = news := by
  obtain ⟨demands, hlog, rfl⟩ := h
  rw [Connection.performed, hlog, List.drop_left]

end Moments

/-! ## The accounts -/

section Ledger

variable {D : Type}

/-- Holdings of contents agree with what has happened since the contents were `base`: what lasts is what
the statements lead to that count already, and what a statement finds is what those lead to that would
count if all that is undecided were kept. -/
def Ledger (effect : Performed → D → D) (base : D) (past : List Happening) (v : Holdings D) : Prop :=
  ∃ H : Holdings (List Performed), v = H.map (replay effect base) ∧
    H.durable = counted false past ∧ H.current = counted true past

namespace Ledger

variable {effect : Performed → D → D} {base : D} {past : List Happening} {v : Holdings D}

/-- A statement was run with success; outside of a transaction it is one of its own. -/
theorem ran (h : Ledger effect base past v) (x : Performed) :
    Ledger effect base (past ++ [.ran (!v.working.isSome) x]) (v.change (effect x)) := by
  obtain ⟨H, rfl, hdurable, hcurrent⟩ := h
  refine ⟨H.change (· ++ [x]), (Holdings.map_replay_change effect base H x).symm, ?_, ?_⟩
  · rw [counted_ran, Bool.or_false, ← hdurable, Holdings.isSome_map]
    rcases Bool.eq_false_or_eq_true H.working.isSome with hopen | hopen
    · rw [Holdings.durable_change_of_isSome hopen, hopen]
      exact (List.append_nil _).symm
    · rw [Holdings.durable_change_of_none (by simpa using hopen), hopen]
      rfl
  · rw [counted_ran, Bool.or_true, if_pos rfl, Holdings.current_change, hcurrent]

theorem ranEach (h : Ledger effect base past v) (statements : List Performed) :
    Ledger effect base (past ++ statements.map (.ran (!v.working.isSome)))
      (v.changeEach effect statements) := by
  induction statements generalizing past v with
  | nil => rwa [List.map_nil, List.append_nil]
  | cons x rest ih =>
    have hrest := ih (h.ran x)
    rwa [Holdings.isSome_change, List.append_assoc] at hrest

theorem opened (h : Ledger effect base past v) : Ledger effect base past v.opened := by
  obtain ⟨H, rfl, hdurable, hcurrent⟩ := h
  exact ⟨H.opened, (Holdings.map_opened _).symm, hdurable, hcurrent⟩

theorem ended (h : Ledger effect base past v) (keep : Bool) :
    Ledger effect base (past ++ [.ended keep]) (v.ended keep) := by
  obtain ⟨H, rfl, hdurable, hcurrent⟩ := h
  have hkept : (H.ended keep).durable = counted keep past := by
    cases keep
    · exact hdurable
    · exact hcurrent
  refine ⟨H.ended keep, (Holdings.map_ended _ keep).symm, ?_, ?_⟩
  · rw [counted_ended, hkept]
  · rw [counted_ended, Holdings.current_ended, hkept]

end Ledger

end Ledger

section Accounts

variable {ε D : Type} [Engine ε] {i : HandleId} (T : Transactional ε i D) (base : D)

/-- The flags and the engine agree with what has happened since the contents were `base`. -/
structure Accounts (past : List Happening) (s : Connection × Watched ε) : Prop where
  handle : s.1.handle = i
  manual : s.1.inTransaction = true → s.1.autoCommit = false ∧ s.1.isClosed = false
  isOpen : (T.view s.2.engine).working.isSome = s.1.inTransaction
  ledger : Ledger T.effect base past (T.view s.2.engine)

variable {T base} {past : List Happening} {s t : Connection × Watched ε}

namespace Accounts

theorem append_nil (h : Accounts T base past s) : Accounts T base (past ++ []) s := by
  rwa [List.append_nil]

/-- Nothing happens where neither the connection nor the contents change. -/
theorem of_view (h : Accounts T base past s) (hconnection : t.1 = s.1)
    (hview : T.view t.2.engine = T.view s.2.engine) : Accounts T base past t :=
  ⟨hconnection ▸ h.handle, hconnection ▸ h.manual, hconnection ▸ hview ▸ h.isOpen,
    hview ▸ h.ledger⟩

/-- Statements were run with success. -/
theorem ranEach {news : List Performed} (h : Accounts T base past s) (hready : Ready s)
    (hconnection : t.1 = s.1)
    (hview : T.view t.2.engine = (T.view s.2.engine).changeEach T.effect news) :
    Accounts T base (past ++ news.map (.ran s.1.autoCommit)) t := by
  have halone : s.1.autoCommit = !(T.view s.2.engine).working.isSome := by
    rw [h.isOpen]
    rcases Bool.eq_false_or_eq_true s.1.inTransaction with hin | hin
    · rw [hin, (h.manual hin).1]
      rfl
    · rw [hin, hready.resolve_right (by simp [hin])]
      rfl
  refine ⟨hconnection ▸ h.handle, hconnection ▸ h.manual, ?_, ?_⟩
  · rw [hview, Holdings.isSome_changeEach, hconnection, h.isOpen]
  · rw [hview, halone]
    exact h.ledger.ranEach news

/-- A transaction was begun, and nothing has happened yet. -/
theorem begun {c : Connection} {w w' : Watched ε} (h : Accounts T base past (c, w))
    (hclosed : c.isClosed = false) (hauto : c.autoCommit = false)
    (hview : T.view w'.engine = (T.view w.engine).opened) :
    Accounts T base past ({ c with inTransaction := true }, w') := by
  refine ⟨h.handle, fun _ => ⟨hauto, hclosed⟩, ?_, ?_⟩
  · rw [hview]
    rfl
  · rw [hview]
    exact h.ledger.opened

/-- A transaction was ended. -/
theorem ended (h : Accounts T base past s) (keep : Bool) (hhandle : t.1.handle = s.1.handle)
    (hin : t.1.inTransaction = false)
    (hview : T.view t.2.engine = (T.view s.2.engine).ended keep) :
    Accounts T base (past ++ [.ended keep]) t := by
  refine ⟨hhandle.trans h.handle, by simp [hin], ?_, ?_⟩
  · rw [hview, hin, Holdings.working_ended]
    rfl
  · rw [hview]
    exact h.ledger.ended keep

/-! ### One call -/

/-- A transaction is ended by the engine, and until then nothing changes. -/
theorem finishes (h : Accounts T base past s) (keep : Bool) {sql : String} {d : Demand}
    {how : HandleId → ε → Except Report Unit × ε} {r : Except Error Unit}
    (hd : ∀ e, T.runs (i, d, e) = [])
    (hhow : ∀ e, (T.view e).working.isSome = true → Atomic T.view e (how i e) ((T.view e).ended keep))
    (hfinish : Finishes sql (fun i => Watched.pass i d (how i)) s r t) :
    Logs T.toScripting s [] t ∧ (r = .ok () → Accounts T base (past ++ [.ended keep]) t ∧
      t.1.inTransaction = false) ∧ (r.isOk = false → Accounts T base past t) := by
  obtain rfl : s.1.handle = i := h.handle
  have hopen := h.isOpen
  cases hfinish with
  | none hin =>
    refine ⟨logs_nil rfl, fun _ => ⟨h.ended keep rfl hin ?_, hin⟩, nofun⟩
    rw [Holdings.ended_of_none]
    simpa [hin] using hopen
  | ended hin hend =>
    obtain ⟨hr, rfl⟩ := Prod.mk.inj hend
    have hatomic := hhow _ (hopen.trans hin)
    refine ⟨logs_pass_nil _ _ _ (hd _), fun _ => ⟨?_, rfl⟩, nofun⟩
    exact h.ended keep rfl rfl (hatomic.done _ hr)
  | failed hin hend =>
    obtain ⟨hr, rfl⟩ := Prod.mk.inj hend
    have hatomic := hhow _ (hopen.trans hin)
    exact ⟨logs_pass_nil _ _ _ (hd _), nofun, fun _ => h.of_view rfl (hatomic.failed _ hr)⟩

/-- Committing or rolling back, which are refused or end the transaction. -/
theorem conclude (h : Accounts T base past s) (keep : Bool) {sql message : String} {d : Demand}
    {how : HandleId → ε → Except Report Unit × ε} {r : Except Error Unit}
    (hd : ∀ e, T.runs (i, d, e) = [])
    (hhow : ∀ e, (T.view e).working.isSome = true → Atomic T.view e (how i e) ((T.view e).ended keep))
    (hcall : (conclude sql message fun i => Watched.pass i d (how i)).perform s = (r, t)) :
    Logs T.toScripting s [] t ∧
      Accounts T base (past ++ if r.isOk then [.ended keep] else []) t := by
  rcases conclude_cases hcall with ⟨rfl, hr⟩ | ⟨-, hfinish⟩
  · rw [hr]
    exact ⟨logs_nil rfl, h.append_nil⟩
  · obtain ⟨hlogs, hok, herror⟩ := h.finishes keep hd hhow hfinish
    refine ⟨hlogs, ?_⟩
    cases r with
    | ok a => exact (hok rfl).1
    | error err => exact (herror rfl).append_nil

theorem setAutoCommit (h : Accounts T base past s) {on : Bool} {r : Except Error Unit}
    (hcall : (setAutoCommit on).perform s = (r, t)) : Logs T.toScripting s [] t ∧
      Accounts T base (past ++ decided (.setAutoCommit on) r) t := by
  cases on with
  | false =>
    have hnothing : decided (.setAutoCommit false) r = [] := by
      simp [decided, Call.verdict?]
    rw [hnothing, List.append_nil]
    rcases setAutoCommit_false_cases hcall with ⟨rfl, -⟩ | ⟨-, rfl⟩
    · exact ⟨logs_nil rfl, h⟩
    · exact ⟨logs_nil rfl, h.handle, fun hin => ⟨rfl, (h.manual hin).2⟩, h.isOpen, h.ledger⟩
  | true =>
    rcases setAutoCommit_true_cases hcall with ⟨rfl, hr⟩ | ⟨u, hfinish, rfl, rfl⟩ | ⟨hfinish, hr⟩
    · rw [decided, hr]
      exact ⟨logs_nil rfl, h.append_nil⟩
    · obtain ⟨hlogs, hok, -⟩ := h.finishes true (fun _ => rfl) T.commit_atomic hfinish
      obtain ⟨hu, hin⟩ := hok rfl
      exact ⟨hlogs, hu.handle, by simp [hin], hu.isOpen, hu.ledger⟩
    · obtain ⟨hlogs, -, herror⟩ := h.finishes true (fun _ => rfl) T.commit_atomic hfinish
      rw [decided, hr]
      exact ⟨hlogs, (herror hr).append_nil⟩

theorem close (h : Accounts T base past s) {r : Except Error Unit}
    (hcall : close.perform s = (r, t)) :
    Logs T.toScripting s [] t ∧ Accounts T base (past ++ decided .close r) t := by
  obtain rfl : s.1.handle = i := h.handle
  rcases close_cases hcall with ⟨hclosed, rfl, rfl⟩ | ⟨-, rfl, w, hengine, rfl⟩ | ⟨hr, f, hengine, hc⟩
  · -- a connection that was closed has no transaction any more
    have hin : t.1.inTransaction = false := by
      by_contra hin
      rw [Bool.not_eq_false] at hin
      rw [(h.manual hin).2] at hclosed
      cases hclosed
    have hopen := h.isOpen
    refine ⟨logs_nil rfl, h.ended false rfl hin ?_⟩
    rw [Holdings.ended_of_none]
    simpa [hin] using hopen
  · obtain ⟨hr, rfl⟩ := Prod.mk.inj hengine
    exact ⟨logs_pass_nil _ _ _ rfl, h.ended false rfl rfl ((T.close_atomic _).done _ hr)⟩
  · obtain ⟨hr', hw⟩ := Prod.mk.inj hengine
    obtain ⟨c, w⟩ := t
    obtain rfl : c = s.1 := hc
    obtain rfl : (Watched.pass _ .close (Engine.close _) s.2).2 = w := hw
    rw [decided, hr]
    refine ⟨logs_pass_nil _ _ _ rfl, Accounts.append_nil (h.of_view rfl ?_)⟩
    exact (T.close_atomic _).failed _ hr'

/-- Entering prepares for statements, and runs none. -/
theorem enter (h : Accounts T base past s) {sql : String} {r : Except Error Unit}
    (henter : (enter sql).perform s = (r, t)) :
    Logs T.toScripting s [] t ∧ t.1.autoCommit = s.1.autoCommit ∧ Accounts T base past t := by
  obtain rfl : s.1.handle = i := h.handle
  have hopen := h.isOpen
  have hways := enters_enter sql s
  rw [henter] at hways
  cases hways with
  | refused => exact ⟨logs_nil rfl, rfl, h⟩
  | ready => exact ⟨logs_nil rfl, rfl, h⟩
  | begun hclosed hauto hin hbegin =>
    obtain ⟨hr, rfl⟩ := Prod.mk.inj hbegin
    have hatomic := T.begin_atomic _ (by simpa [hin] using hopen)
    exact ⟨logs_pass_nil _ _ _ rfl, rfl, h.begun hclosed hauto (hatomic.done _ hr)⟩
  | failed hin hbegin =>
    obtain ⟨hr, rfl⟩ := Prod.mk.inj hbegin
    have hatomic := T.begin_atomic _ (by simpa [hin] using hopen)
    exact ⟨logs_pass_nil _ _ _ rfl, rfl, h.of_view rfl (hatomic.failed _ hr)⟩

/-- Preparing a statement is no happening. -/
theorem prepare {c : Connection} {w : Watched ε} {sql : String} (h : Accounts T base past (c, w))
    (hplain : T.plain sql) :
    Logs T.toScripting (c, w) [] (c, (Engine.prepare c.handle sql w).2) ∧
      Accounts T base past (c, (Engine.prepare c.handle sql w).2) := by
  obtain rfl : c.handle = i := h.handle
  exact ⟨logs_pass_nil _ _ _ rfl, h.of_view rfl (T.view_prepare _ sql hplain)⟩

/-- A statement counts if it succeeds, and has no effect if it does not. -/
theorem attempts {sql : String} {cells : List Cell} {b : Bool} (h : Accounts T base past s)
    (hready : Ready s) (hplain : T.plain sql) (hattempt : Attempts sql cells s b t) :
    ∃ news, Logs T.toScripting s news t ∧ news.length = (if b then 1 else 0) ∧
      Accounts T base (past ++ news.map (.ran s.1.autoCommit)) t := by
  cases hattempt with
  | prepared c w =>
    obtain ⟨hlogs, hend⟩ := h.prepare hplain
    exact ⟨[], hlogs, rfl, hend.append_nil⟩
  | @failed c w w' report hrun =>
    obtain ⟨hlogs, hprepared⟩ := h.prepare hplain
    obtain rfl : c.handle = i := h.handle
    obtain ⟨hr, rfl⟩ := Prod.mk.inj hrun
    have hview := (T.run_atomic _ ⟨sql, cells⟩ hplain).failed _ hr
    have hrun := logs_pass (T := T.toScripting) c c (.run ⟨sql, cells⟩) (Engine.run c.handle sql cells)
      (Engine.prepare c.handle sql w).2
    rw [T.succeeded_run, Engine.succeeds, hr] at hrun
    exact ⟨[], hlogs.trans hrun, rfl, Accounts.append_nil (hprepared.of_view rfl hview)⟩
  | @ran c w w' rows hrun =>
    obtain ⟨hlogs, hprepared⟩ := h.prepare hplain
    obtain rfl : c.handle = i := h.handle
    obtain ⟨hr, rfl⟩ := Prod.mk.inj hrun
    have hview := (T.run_atomic _ ⟨sql, cells⟩ hplain).done _ hr
    have hrun := logs_pass (T := T.toScripting) c c (.run ⟨sql, cells⟩) (Engine.run c.handle sql cells)
      (Engine.prepare c.handle sql w).2
    rw [T.succeeded_run, Engine.succeeds, hr] at hrun
    exact ⟨[⟨sql, cells⟩], hlogs.trans hrun, rfl, hprepared.ranEach hready rfl hview⟩

/-- A single statement: it is entered, and then it is attempted. -/
theorem run {sql : String} {parameters : List Value} (h : Accounts T base past s)
    (hplain : T.plain sql) {r : Except Error (List String × List (List Cell))}
    (hrun : (run sql parameters).perform s = (r, t)) :
    ∃ news, Logs T.toScripting s news t ∧ news.length = (if r.isOk then 1 else 0) ∧
      Accounts T base (past ++ news.map (.ran s.1.autoCommit)) t := by
  rcases run_cases hrun with ⟨hr, err, henter⟩ | ⟨u, henter, hattempt⟩
  · obtain ⟨hlogs, -, hend⟩ := h.enter henter
    exact ⟨[], hlogs, by rw [hr]; rfl, hend.append_nil⟩
  · obtain ⟨hlogs, hauto, hu⟩ := h.enter henter
    obtain ⟨news, hnews, hcount, hend⟩ := hu.attempts (ready_of_enter henter) hplain hattempt
    rw [hauto] at hend
    exact ⟨news, hlogs.trans hnews, hcount, hend⟩

/-- A script counts with those of its statements that have succeeded. -/
theorem runScript {sql : String} (h : Accounts T base past s) (hplain : T.plain sql)
    {r : Except Error Unit} (hrun : (runScript sql).perform s = (r, t)) :
    ∃ news, Logs T.toScripting s news t ∧
      Accounts T base (past ++ news.map (.ran s.1.autoCommit)) t := by
  rcases runScript_cases hrun with ⟨hr, err, henter⟩ | ⟨⟨c, w⟩, henter, rfl⟩
  · obtain ⟨hlogs, -, hend⟩ := h.enter henter
    exact ⟨[], hlogs, hend.append_nil⟩
  · obtain ⟨hlogs, hauto, hu⟩ := h.enter henter
    obtain rfl : c.handle = i := hu.handle
    have hscript := logs_pass (T := T.toScripting) c c (.exec sql) (Engine.exec c.handle sql) w
    have hview : T.view (Engine.exec c.handle sql w.engine).2 =
        (T.view w.engine).changeEach T.effect (T.succeeded [(c.handle, .exec sql, w.engine)]) := by
      rw [Scripting.succeeded, List.flatMap_singleton]
      exact T.view_executes (T.executes sql w.engine) (T.plain_statements sql hplain)
    rw [← hauto]
    exact ⟨_, hlogs.trans hscript, hu.ranEach (ready_of_enter henter) rfl hview⟩

end Accounts

/-- A call for one statement runs it exactly if it succeeds, and decides nothing. -/
theorem Accounts.statement (h : Accounts T base past s) {call : Call} (hcall : call.isStatement = true)
    (hplain : ∀ sql ∈ call.text?, T.plain sql) {r : Except Error Unit}
    (hact : call.act.perform s = (r, t)) :
    ∃ news, Logs T.toScripting s news t ∧ news.length = (if r.isOk then 1 else 0) ∧
      Accounts T base (past ++ news.map (.ran s.1.autoCommit)) t := by
  obtain ⟨sql, parameters, r', htext, hrun, hr⟩ := call.run_of_isStatement hcall hact
  rw [← hr]
  exact h.run (hplain sql htext) hrun

/-- Whatever is called for, the accounts agree with what has happened. -/
theorem Accounts.step {m : CallMoment (Watched ε)} (h : Accounts T base past m.before)
    (hplain : ∀ sql ∈ m.event.1.text?, T.plain sql)
    (hstep : Act.Step Call.act m.before m.event m.after) :
    Accounts T base (past ++ happenings T.toScripting m) m.after := by
  obtain ⟨s, ⟨call, r⟩, t⟩ := m
  -- a call runs statements or decides about them
  have hruns (hverdict : call.verdict? = none)
      (hnews : ∃ news, Logs T.toScripting s news t ∧
        Accounts T base (past ++ news.map (.ran s.1.autoCommit)) t) :
      Accounts T base (past ++ happenings T.toScripting ⟨s, (call, r), t⟩) t := by
    obtain ⟨news, hlogs, hend⟩ := hnews
    have hnothing : decided call r = [] := by simp [decided, hverdict]
    have hperformed := hlogs.performed (m := ⟨s, (call, r), t⟩)
    rwa [happenings, hperformed, hnothing, List.append_nil]
  have hdecides (hend : Logs T.toScripting s [] t ∧ Accounts T base (past ++ decided call r) t) :
      Accounts T base (past ++ happenings T.toScripting ⟨s, (call, r), t⟩) t := by
    have hperformed := hend.1.performed (m := ⟨s, (call, r), t⟩)
    rw [happenings, hperformed]
    exact hend.2
  have hstatement (hcall : call.isStatement = true) : ∃ news, Logs T.toScripting s news t ∧
      Accounts T base (past ++ news.map (.ran s.1.autoCommit)) t := by
    obtain ⟨news, hlogs, -, hend⟩ := h.statement hcall hplain hstep
    exact ⟨news, hlogs, hend⟩
  cases call with
  | query sql parameters => exact hruns rfl (hstatement rfl)
  | execute sql parameters => exact hruns rfl (hstatement rfl)
  | insert sql parameters => exact hruns rfl (hstatement rfl)
  | script sql => exact hruns rfl (h.runScript (hplain sql rfl) hstep)
  | setAutoCommit on => exact hdecides (h.setAutoCommit hstep)
  | commit =>
    have hcall : Connection.commit.perform s = (r, t) := hstep
    rw [commit_eq] at hcall
    exact hdecides (h.conclude true (fun _ => rfl) T.commit_atomic hcall)
  | rollback =>
    have hcall : Connection.rollback.perform s = (r, t) := hstep
    rw [rollback_eq] at hcall
    exact hdecides (h.conclude false (fun _ => rfl) T.rollback_atomic hcall)
  | close => exact hdecides (h.close hstep)

/-! ## Every run -/

end Accounts

end Connection

/-! ## Notes over a fickle engine -/

namespace FickleEngine

/-- Prepares the first statement of a text. -/
def prepare (sql : String) (s : Fickle Contents) :
    Except Report (Option (List (Option String))) × Fickle Contents :=
  match Prepared.first? sql with
  | none => (.ok none, s)
  | some (.error f) => (.error f.report, s)
  | some (.ok p) =>
    (((s.holdings.current.check p.command).map fun names => some (names.map some)).mapError
      Failure.report, s)

/-- What the first statement of a text comes to, and the contents that it leaves. -/
def outcome (x : Performed) (d : Contents) : Except Failure (List (List Cell)) × Contents :=
  match Prepared.first? x.sql with
  | none => (.error .misuse, d)
  | some (.error f) => (.error f, d)
  | some (.ok p) => ((d.run x.cells p.command).result, ((d.run x.cells p.command).contents).getD d)

/-- What a statement makes of contents. -/
def effect (x : Performed) (d : Contents) : Contents := (outcome x d).2

/-- Runs a statement, which has no effect if it fails. -/
def attempt (x : Performed) (h : Holdings Contents) :
    Except Report (List (List Cell)) × Holdings Contents :=
  let r := (outcome x h.current).1
  (r.mapError Failure.report, if r.isOk then h.change (effect x) else h)

/-- Runs a statement, unless it is refused. -/
def run (x : Performed) : Fickle Contents → Except Report (List (List Cell)) × Fickle Contents :=
  Fickle.attempt Failure.locked.report (attempt x)

instance : Engine (Fickle Contents) where
  begin _ := Fickle.attempt Failure.locked.report fun h => (.ok (), h.opened)
  commit _ := Fickle.attempt Failure.locked.report fun h => (.ok (), h.kept)
  rollback _ := Fickle.attempt Failure.locked.report fun h => (.ok (), h.dropped)
  close _ := Fickle.attempt Failure.locked.report fun h => (.ok (), h.dropped)
  prepare _ := prepare
  bind _ sql position _ _ := (Store.bindFirst sql position).mapError Failure.report
  run _ sql cells := run ⟨sql, cells⟩
  exec _ sql := runEach prepare (fun sql => run ⟨sql, []⟩) (statementTexts sql)
  changes _ _ := 0
  lastRowId _ _ := 0

theorem holdings_prepare (sql : String) (s : Fickle Contents) :
    (prepare sql s).2.holdings = s.holdings := by
  rw [prepare]
  split <;> rfl

theorem attempt_atomic (x : Performed) (h : Holdings Contents) :
    Atomic id h (attempt x h) (h.change (effect x)) := by
  rw [attempt]
  cases (outcome x h.current).1 with
  | ok rows => exact ⟨fun _ _ => rfl, nofun⟩
  | error f => exact ⟨nofun, fun _ _ => rfl⟩

/-- Contents with a working copy keep the promise of an engine, whatever is refused.  No text begins or
ends a transaction. -/
def transactional (i : HandleId) : Transactional (Fickle Contents) i Contents where
  statements := statementTexts
  exec_eq _ _ := rfl
  plain _ := True
  plain_statements _ _ _ _ := trivial
  effect := effect
  view := Fickle.holdings
  begin_atomic s _ := Fickle.attempt_move_atomic _ _ _ s
  commit_atomic s _ := Fickle.attempt_move_atomic _ _ _ s
  rollback_atomic s _ := Fickle.attempt_move_atomic _ _ _ s
  close_atomic s := Fickle.attempt_move_atomic _ _ _ s
  view_prepare s sql _ := holdings_prepare sql s
  run_atomic s x _ := Fickle.attempt_atomic (attempt_atomic x s.holdings)

end FickleEngine

namespace Notes

/-- An empty database, over which the sixth call is refused, which is a `BEGIN`, and the ninth, which is
a `COMMIT`. -/
def refusing : Watched (Fickle Contents) :=
  ⟨⟨⟨[], none⟩, [false, false, false, false, false, true, false, false, true]⟩, []⟩

/-- A note is written at once, and the next one is dropped.  The third has no transaction to wait in.
The fourth waits with the fifth after a commit that fails. -/
def calls : List Connection.Call :=
  [.script "CREATE TABLE notes (body TEXT); INSERT INTO notes VALUES ('first')",
    .setAutoCommit false,
    .execute "INSERT INTO notes VALUES (?)" [.text "second"],
    .rollback,
    .execute "INSERT INTO notes VALUES (?)" [.text "third"],
    .execute "INSERT INTO notes VALUES (?)" [.text "fourth"],
    .commit,
    .insert "INSERT INTO notes VALUES (?)" [.text "fifth"],
    .setAutoCommit true,
    .close]

/-- A connection that was just opened. -/
def opened : Connection × Watched (Fickle Contents) := (Connection.start "notes" 0, refusing)

/-- The moments of the calls. -/
def trace : List (Connection.CallMoment (Watched (Fickle Contents))) :=
  Act.moments Connection.Call.act calls opened

/-- What the calls leave behind. -/
def closed : Connection × Watched (Fickle Contents) := Act.ending Connection.Call.act calls opened

/-- The contents that the statements lead to which are counted in the end. -/
def kept : Contents :=
  replay FickleEngine.effect []
    (Happening.counted false
      (trace.flatMap (Connection.happenings (FickleEngine.transactional 0).toScripting)))

end Notes

end EntitySession.Sqlite
