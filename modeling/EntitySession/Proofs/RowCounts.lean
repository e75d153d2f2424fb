import EntitySession.Proofs.ConnectionFlags
import EntitySession.Proofs.Counters

/-!
# What a connection reports about its statements

A connection answers `execute` with the counter of changed rows, and `insert` with that counter and the
identifier of the row that was added last.  Both counters belong to the handle and not to the statement:
they outlive the statement that has set them, and the next one may be a `BEGIN`, or one that changes no
rows.  So what a statement reports is its own doing only if it is one of those that set the counter.

The engine is watched, so that it is known which statements it has run and in which order, those of
scripts included, and the counters are told from that: they are what the last statement has left that
concerns them (`Counting.countersAfter`).  This holds in every state of every run (`Told`), because a
connection goes by a few kinds of moves (`Moves`), of which only two can set a counter.

From there a statement reports its own rows exactly if it changes rows, or if nothing was counted before
it (`Counting.Reports`), and the keys of an `insert` go wrong in the same way
(`Counting.ReportsKeys`).  A short run in which all of them are wrong stands at the end.
-/

set_option autoImplicit false

namespace EntitySession.Sqlite

namespace Connection

variable {ε α : Type} [Engine ε]

/-! ## The moves of a connection -/

/-- One move of a connection: it changes its flags, or it asks its engine for something. -/
inductive Moves : Connection × ε → Connection × ε → Prop
  | flags {c c' : Connection} {e : ε} (hhandle : c'.handle = c.handle)
      (hclosed : c'.isClosed = c.isClosed) : Moves (c, e) (c', e)
  | begins (c : Connection) (e : ε) : Moves (c, e) (c, (Engine.begin c.handle e).2)
  | commits (c : Connection) (e : ε) : Moves (c, e) (c, (Engine.commit c.handle e).2)
  | rollsBack (c : Connection) (e : ε) : Moves (c, e) (c, (Engine.rollback c.handle e).2)
  | prepares (c : Connection) (e : ε) (sql : String) :
      Moves (c, e) (c, (Engine.prepare c.handle sql e).2)
  | runs (c : Connection) (e : ε) (sql : String) (cells : List Cell) :
      Moves (c, e) (c, (Engine.run c.handle sql cells e).2)
  | executes (c : Connection) (e : ε) (sql : String) :
      Moves (c, e) (c, (Engine.exec c.handle sql e).2)
  | closes {c c' : Connection} {e e' : ε} (hclosed : c'.isClosed = true) (hhandle : c'.handle = c.handle)
      (hclose : Engine.close c.handle e = (.ok (), e')) : Moves (c, e) (c', e')
  | stays {c : Connection} {e e' : ε} {report : Report}
      (hclose : Engine.close c.handle e = (.error report, e')) : Moves (c, e) (c, e')

variable {s t : Connection × ε} {sql : String}

open Act (Via)

omit [Engine ε] in
theorem ensureOpen_via {R : Connection × ε → Connection × ε → Prop} {sql : Option String} :
    (ensureOpen sql).Via R s :=
  .bind (.reading _) fun c t _ => by
    split
    · exact .throw _
    · exact .pure ()

omit [Engine ε] in
theorem call_via {R : Connection × ε → Connection × ε → Prop} {f : HandleId → ε → Except Report α × ε}
    (hf : R s (s.1, (f s.1.handle s.2).2)) : (call sql f).Via R s :=
  .of hf

theorem beginIfNeeded_via : (beginIfNeeded (ε := ε)).Via Moves s :=
  .bind (.reading _) fun c t _ => by
    split
    · exact .bind (call_via (.begins _ _)) fun _ _ _ => .of (.flags rfl rfl)
    · exact .pure ()

theorem finish_via {how : HandleId → ε → Except Report Unit × ε}
    (hhow : ∀ c e, Moves (c, e) (c, (how c.handle e).2)) : (finish sql how).Via Moves s :=
  .bind (.reading _) fun c t _ => by
    split
    · exact .bind (call_via (hhow _ _)) fun _ _ _ => .of (.flags rfl rfl)
    · exact .pure ()

theorem conclude_via {message : String} {how : HandleId → ε → Except Report Unit × ε}
    (hhow : ∀ c e, Moves (c, e) (c, (how c.handle e).2)) : (conclude sql message how).Via Moves s :=
  .bind ensureOpen_via fun _ _ _ => .bind (.reading _) fun c t _ => by
    split
    · exact .bind (.throw _) fun _ _ _ => finish_via hhow
    · exact finish_via hhow

theorem setAutoCommit_via (on : Bool) : (setAutoCommit on).Via Moves s :=
  .bind ensureOpen_via fun _ t _ => by
    split
    · exact .bind (finish_via .commits) fun _ _ _ => .of (.flags rfl rfl)
    · exact .of (.flags rfl rfl)

theorem close_via : (close (ε := ε)).Via Moves s := by
  rw [Via]
  rcases h : close.perform s with ⟨r, t⟩
  obtain ⟨-, -, rfl⟩ | ⟨-, -, e, he, rfl⟩ | ⟨-, f, he, ht⟩ := close_cases h
  · exact .refl
  · exact .single (.closes rfl rfl he)
  · obtain ⟨c, e⟩ := t
    obtain rfl : c = s.1 := ht
    exact .single (.stays he)

theorem enter_via : (enter sql).Via Moves s :=
  .bind ensureOpen_via fun _ _ _ => .bind beginIfNeeded_via fun _ t _ => by
    split
    · exact .throw _
    · exact .pure ()

theorem prepare_via : (prepare (ε := ε) sql).Via Moves s :=
  .bind (call_via (.prepares _ _ _)) fun names _ _ => by
    cases names with
    | none => exact .throw _
    | some names => exact .pure _

theorem bindFrom_via {R : Connection × ε → Connection × ε → Prop} (position : Nat)
    (cells : List Cell) : (bindFrom sql position cells).Via R s := by
  induction cells generalizing position s with
  | nil => exact .pure ()
  | cons x rest ih => exact .bind (.reading _) fun _ _ _ => ih (position + 1)

theorem run_via (parameters : List Value) : (run sql parameters).Via Moves s :=
  .bind enter_via fun _ _ _ => .bind prepare_via fun _ _ _ =>
    .bind (bindFrom_via 0 _) fun _ _ _ => .bind (call_via (.runs _ _ _ _)) fun _ _ _ => .pure _

theorem runScript_via : (runScript (ε := ε) sql).Via Moves s :=
  .bind enter_via fun _ _ _ => call_via (.executes _ _ _)

theorem execute_via (parameters : List Value) : (execute sql parameters).Via Moves s :=
  .bind (run_via parameters) fun _ _ _ => .reading _

theorem insert_via (parameters : List Value) : (insert sql parameters).Via Moves s :=
  .bind (execute_via parameters) fun rows _ _ => by
    split
    · exact .pure _
    · exact .bind (.reading _) fun _ _ _ => .pure _

/-- Every call is a sequence of moves. -/
theorem Call.act_via (call : Call) : (call.act (ε := ε)).Via Moves s := by
  cases call with
  | query sql parameters => exact .map _ (.bind (run_via parameters) fun _ _ _ => .pure _)
  | execute sql parameters => exact .map _ (execute_via parameters)
  | insert sql parameters => exact .map _ (insert_via parameters)
  | script sql => exact runScript_via
  | setAutoCommit on => exact setAutoCommit_via on
  | commit => exact conclude_via .commits
  | rollback => exact conclude_via .rollsBack
  | close => exact close_via

end Connection

/-! ## What was counted -/

namespace Counting

variable {ε : Type} [Engine ε] {i : HandleId} (T : Counting ε i)

/-- What the counters are after statements were run: the last one that inserts, updates or deletes rows
decides about the first of them, and the last one that has added a row about the second. -/
def countersAfter (before : Nat × Int) (runs : List (Performed × ε)) : Nat × Int :=
  runs.foldl
    (fun counters (x, e) =>
      (if T.changesRows x.sql then T.touched x e else counters.1, (T.lastAdded? x e).getD counters.2))
    before

/-- How many rows the last statement has touched that inserts, updates or deletes rows. -/
def latestCount (log : List (HandleId × Demand × ε)) : Nat :=
  (T.countersAfter (0, 0) (log.flatMap T.runs)).1

/-- The identifier of the row that was added last. -/
def latestId (log : List (HandleId × Demand × ε)) : Int :=
  (T.countersAfter (0, 0) (log.flatMap T.runs)).2

/-- A script leaves the counters as its statements have left them. -/
theorem counters_executes {texts : List String} {e e' : ε} {runs : List (Performed × ε)}
    {r : Except Report Unit} (h : Engine.Executes i texts e runs r e') :
    Engine.counters i e' = T.countersAfter (Engine.counters i e) runs :=
  h.foldl (fun sql _ => T.counters_prepare sql) fun sql _ => T.counters_run ⟨sql, []⟩

end Counting

namespace Connection

variable {ε : Type} [Engine ε] {i : HandleId} {T : Counting ε i}

/-- While a connection is open, the counters of its handle tell of the statements that were run last. -/
structure Told (T : Counting ε i) (s : Connection × Watched ε) : Prop where
  handle : s.1.handle = i
  counters : s.1.isClosed = false →
    Engine.counters i s.2.engine = T.countersAfter (0, 0) (s.2.log.flatMap T.runs)

namespace Told

variable {s t : Connection × Watched ε} {c : Connection} {w : Watched ε}

/-- A demand that leaves the counters as the statements do that it has run. -/
theorem pass {α : Type} {f : ε → Except Report α × ε} (d : Demand) (h : Told T (c, w))
    (hcounters : Engine.counters i (f w.engine).2 =
      T.countersAfter (Engine.counters i w.engine) (T.runs (i, d, w.engine))) :
    Told T (c, (Watched.pass i d f w).2) where
  handle := h.handle
  counters hopen := by
    change Engine.counters i (f w.engine).2 = T.countersAfter (0, 0) ((w.log ++ [_]).flatMap T.runs)
    rw [hcounters, h.counters hopen, List.flatMap_append, List.flatMap_singleton]
    exact (List.foldl_append ..).symm

/-- Whatever a connection does, its counters are told by what it has asked for. -/
theorem moves (h : Told T s) (hmove : Moves s t) : Told T t := by
  obtain rfl : s.1.handle = i := h.handle
  cases hmove with
  | flags hhandle hclosed => exact ⟨hhandle.trans h.handle, fun hopen => h.counters (hclosed ▸ hopen)⟩
  | begins c w => exact h.pass .begin (T.counters_begin _)
  | commits c w => exact h.pass .commit (T.counters_commit _)
  | rollsBack c w => exact h.pass .rollback (T.counters_rollback _)
  | prepares c w sql => exact h.pass (.prepare sql) (T.counters_prepare sql _)
  | runs c w sql cells => exact h.pass (.run ⟨sql, cells⟩) (T.counters_run ⟨sql, cells⟩ _)
  | executes c w sql => exact h.pass (.exec sql) (T.counters_executes (T.executes sql _))
  | closes hclosed hhandle hclose =>
    refine ⟨hhandle.trans h.handle, fun hopen => ?_⟩
    rw [hclosed] at hopen
    cases hopen
  | @stays c w w' report hclose =>
    obtain ⟨hfailed, rfl⟩ := Prod.mk.inj hclose
    refine h.pass .close (T.counters_close _ ?_)
    rw [hfailed]
    rfl

theorem step {event : Call × Except Error Unit} (h : Told T s) (hstep : Act.Step Call.act s event t) :
    Told T t := by
  have hend := (Call.act_via event.1).invariant (P := Told T) (fun _ _ hmove h => h.moves hmove) h
  rwa [show event.1.act.perform s = (event.2, t) from hstep] at hend

theorem start {e : ε} (hfresh : Engine.counters i e = (0, 0)) (path : String) :
    Told T (Connection.start path i, ⟨e, []⟩) :=
  ⟨rfl, fun _ => hfresh⟩

end Told

/-! ## One statement -/

variable {s t : Connection × Watched ε} {sql : String} {parameters : List Value}

/-- To enter a text runs nothing, and a connection is open that can. -/
theorem runs_of_enter {c : Connection} {w : Watched ε}
    (henter : (enter sql).perform s = (.ok (), (c, w))) : c.isClosed = false ∧
      w.log.flatMap T.runs = s.2.log.flatMap T.runs := by
  have hopen : s.1.isClosed = false := by
    by_contra hclosed
    rw [perform_enter_of_closed (by simpa using hclosed)] at henter
    cases henter
  have henters := enters_enter sql s
  rw [henter] at henters
  cases henters with
  | ready => exact ⟨hopen, rfl⟩
  | begun hclosed _ _ hbegin =>
    obtain ⟨-, rfl⟩ := Prod.mk.inj hbegin
    exact ⟨hclosed, List.flatMap_append.trans (List.append_nil _)⟩

/-- The statement that a call has run, and the state in which the engine has found it. -/
structure Ran (i : HandleId) (sql : String) (parameters : List Value) (t : Connection × Watched ε)
    (x : Performed) (e : ε) : Prop where
  sql : x.sql = sql
  cells : x.cells = parameters.map Cell.ofValue
  /-- Nothing was asked of the engine after it. -/
  last : t.2.log.getLast? = some (i, .run x, e)
  isOk : (Engine.run i x.sql x.cells e).1.isOk = true

/-- What the counters are when a statement was run. -/
theorem Told.exists_ran {a : List String × List (List Cell)} (h : Told T s)
    (hrun : (Connection.run sql parameters).perform s = (.ok a, t)) :
    ∃ x e, Ran i sql parameters t x e ∧ t.1.handle = i ∧ Engine.counters i t.2.engine =
      (if T.changesRows x.sql then T.touched x e else T.latestCount s.2.log,
        (T.lastAdded? x e).getD (T.latestId s.2.log)) := by
  obtain ⟨c, w, rows, w', henter, rfl, hengine⟩ := run_ok hrun
  obtain ⟨hopen, hruns⟩ := runs_of_enter (T := T) henter
  have htold : Told T (c, w) := by
    have hvia : (enter sql).Via Moves s := enter_via
    have hend := hvia.invariant (P := Told T) (fun _ _ hmove h => h.moves hmove) h
    rwa [henter] at hend
  obtain rfl : c.handle = i := htold.handle
  obtain ⟨hok, rfl⟩ := Prod.mk.inj hengine
  -- preparing the statement has left the counters as they were when the text was entered
  have hprepared : Engine.counters c.handle (Engine.prepare c.handle sql w.engine).2 =
      (T.latestCount s.2.log, T.latestId s.2.log) := by
    rw [T.counters_prepare, htold.counters hopen, hruns]
    rfl
  obtain ⟨hchanges, hlast⟩ := Prod.mk.inj hprepared
  refine ⟨⟨sql, parameters.map Cell.ofValue⟩, (Engine.prepare c.handle sql w.engine).2,
    ⟨rfl, rfl, List.getLast?_concat, congrArg Except.isOk hok⟩, rfl, ?_⟩
  refine (T.counters_run ⟨sql, _⟩ (Engine.prepare c.handle sql w.engine).2).trans ?_
  rw [hchanges, hlast]

end Connection

/-! ## What is reported -/

namespace Counting

variable {ε : Type} [Engine ε] {i : HandleId} (T : Counting ε i)

/-- What is to be said of the number that a statement reports, run after the demands of a log. -/
structure Reports (log : List (HandleId × Demand × ε)) (x : Performed) (e : ε) (n : Nat) : Prop where
  /-- It is the number of the rows that the statement has touched, if it is one that touches rows. -/
  own : T.changesRows x.sql = true → n = T.touched x e
  /-- Otherwise it is what was counted last before it. -/
  stale : T.changesRows x.sql = false → n = T.latestCount log
  right_iff : n = T.touched x e ↔ T.changesRows x.sql = true ∨ T.latestCount log = 0

/-- What is to be said of the rows and keys that an insertion reports. -/
structure ReportsKeys (log : List (HandleId × Demand × ε)) (x : Performed) (e : ε) (r : InsertResult) :
    Prop where
  rows : T.Reports log x e r.rows
  own : T.addsRows x.sql = true →
    r.keys = (T.lastAdded? x e).toList.map fun id => .bigInt (Int64.ofInt id)
  stale : T.addsRows x.sql = false →
    r.keys = if r.rows = 0 then [] else [.bigInt (Int64.ofInt (T.latestId log))]
  /-- A key is reported only for a row that was added, if the statement is one that adds rows or no row
  is reported. -/
  right_iff : (r.keys ≠ [] → (T.lastAdded? x e).isSome = true) ↔
    T.addsRows x.sql = true ∨ r.rows = 0

variable {T} {log : List (HandleId × Demand × ε)} {x : Performed} {e : ε}

theorem reports (n : Nat)
    (hn : n = if T.changesRows x.sql then T.touched x e else T.latestCount log) :
    T.Reports log x e n := by
  subst hn
  cases hx : T.changesRows x.sql with
  | true => exact ⟨fun _ => rfl, by simp [hx], iff_of_true rfl (.inl hx)⟩
  | false =>
    refine ⟨by simp [hx], fun _ => rfl, ?_⟩
    rw [T.touched_of_not x e hx, hx]
    simp

theorem reportsKeys {r : InsertResult} (hok : (Engine.run i x.sql x.cells e).1.isOk = true)
    (hrows : r.rows = if T.changesRows x.sql then T.touched x e else T.latestCount log)
    (hkeys : r.keys = if r.rows = 0 then [] else
      [.bigInt (Int64.ofInt ((T.lastAdded? x e).getD (T.latestId log)))]) :
    T.ReportsKeys log x e r := by
  have hreports := reports r.rows hrows
  cases hx : T.addsRows x.sql with
  | true =>
    have hadded := T.isSome_lastAdded? x e hx hok
    rw [← hreports.own (T.changesRows_of_addsRows x.sql hx)] at hadded
    have hown : r.keys = (T.lastAdded? x e).toList.map fun id => .bigInt (Int64.ofInt id) := by
      rw [hkeys]
      cases hlast : T.lastAdded? x e with
      | none => simpa [hlast] using hadded
      | some id => rw [if_neg (hadded.1 (by rw [hlast]; rfl))]; rfl
    refine ⟨hreports, fun _ => hown, by simp [hx], iff_of_true (fun hne => ?_) (.inl hx)⟩
    by_contra hnone
    rw [Option.not_isSome_iff_eq_none] at hnone
    rw [hown, hnone] at hne
    exact hne rfl
  | false =>
    have hnone := T.lastAdded?_of_not x e hx
    rw [hnone] at hkeys
    refine ⟨hreports, by simp [hx], fun _ => hkeys, ?_⟩
    rw [hnone, hkeys, hx]
    simp

end Counting

namespace Connection

variable {ε : Type} [Engine ε] {i : HandleId}

/-- What the answers of a call say about its statement, if it is an `execute` or an `insert` that has
succeeded. -/
structure Tallies (T : Counting ε i) (m : CallMoment (Watched ε)) : Prop where
  execute : ∀ sql parameters, m.event = (.execute sql parameters, .ok ()) →
    ∃ n x e, (execute sql parameters).perform m.before = (.ok n, m.after) ∧
      Ran i sql parameters m.after x e ∧ T.Reports m.before.2.log x e n
  insert : ∀ sql parameters, m.event = (.insert sql parameters, .ok ()) →
    ∃ r x e, (insert sql parameters).perform m.before = (.ok r, m.after) ∧
      Ran i sql parameters m.after x e ∧ T.ReportsKeys m.before.2.log x e r

variable {T : Counting ε i} {s t : Connection × Watched ε} {sql : String} {parameters : List Value}

/-- What the counters are when `execute` has succeeded, whose answer is the first of them. -/
theorem Told.execute {n : Nat} (h : Told T s)
    (hcall : (Connection.execute sql parameters).perform s = (.ok n, t)) :
    ∃ x e, Ran i sql parameters t x e ∧
      n = (if T.changesRows x.sql then T.touched x e else T.latestCount s.2.log) ∧
      Engine.lastRowId t.1.handle t.2.engine = (T.lastAdded? x e).getD (T.latestId s.2.log) := by
  obtain ⟨a, u, hrun, hask⟩ := Act.perform_bind_ok.1 hcall
  obtain ⟨hn, rfl⟩ := Prod.mk.inj hask
  obtain ⟨x, e, hran, rfl, hcounters⟩ := h.exists_ran hrun
  obtain ⟨hchanges, hlast⟩ := Prod.mk.inj hcounters
  exact ⟨x, e, hran, (Except.ok.inj hn).symm.trans hchanges, hlast⟩

theorem Told.insert {r : InsertResult} (h : Told T s)
    (hcall : (Connection.insert sql parameters).perform s = (.ok r, t)) :
    ∃ x e, Ran i sql parameters t x e ∧ T.ReportsKeys s.2.log x e r := by
  obtain ⟨n, u, hexecute, hlook⟩ := Act.perform_bind_ok.1 hcall
  obtain ⟨x, e, hran, hrows, hlast⟩ := h.execute hexecute
  have hend : u = t ∧
      r = ⟨n, if n = 0 then [] else [.bigInt (Int64.ofInt (Engine.lastRowId u.1.handle u.2.engine))]⟩ := by
    split at hlook
    · next hn =>
      obtain ⟨hr, rfl⟩ := Prod.mk.inj hlook
      rw [if_pos hn, hn]
      exact ⟨rfl, (Except.ok.inj hr).symm⟩
    · next hn =>
      obtain ⟨hr, rfl⟩ := Prod.mk.inj hlook
      rw [if_neg hn]
      exact ⟨rfl, (Except.ok.inj hr).symm⟩
  obtain ⟨rfl, rfl⟩ := hend
  exact ⟨x, e, hran, Counting.reportsKeys hran.isOk hrows (by rw [← hlast])⟩

theorem Told.tallies {m : CallMoment (Watched ε)} (h : Told T m.before)
    (hstep : Act.Step Call.act m.before m.event m.after) : Tallies T m where
  execute sql parameters hevent := by
    rw [hevent] at hstep
    obtain ⟨n, hcall, -⟩ := Act.perform_map_ok.1 hstep
    obtain ⟨x, e, hran, hn, -⟩ := h.execute hcall
    exact ⟨n, x, e, hcall, hran, Counting.reports n hn⟩
  insert sql parameters hevent := by
    rw [hevent] at hstep
    obtain ⟨r, hcall, -⟩ := Act.perform_map_ok.1 hstep
    obtain ⟨x, e, hran, hr⟩ := h.insert hcall
    exact ⟨r, x, e, hcall, hran, hr⟩

/-- **What a connection reports.**  Whatever a new connection is called for, over an engine that has
counted nothing yet, an `execute` that succeeds reports the rows that its statement has touched if that
inserts, updates or deletes rows.  After any other statement it reports what was counted last, which is
right only if that is nothing.  An `insert` reports a key of its own if its statement inserts rows, and
otherwise one of a row that was added before. -/
theorem tallies_of_run (T : Counting ε i) {path : String} {e : ε}
    (hfresh : Engine.counters i e = (0, 0)) {trace : List (CallMoment (Watched ε))}
    (hrun : Run (Act.Step Call.act) (Connection.start path i, ⟨e, []⟩) trace s) :
    ∀ m ∈ trace, Tallies T m := by
  intro m hm
  obtain ⟨first, last, rfl⟩ := List.append_of_mem hm
  obtain ⟨hfirst, hstep, -⟩ := hrun.split
  have htold : Told T m.before :=
    hfirst.invariant (P := Told T) (fun _ _ hstep h => h.step hstep) (.start hfresh path)
  exact htold.tallies hstep

end Connection

/-! ### Notes that are counted twice -/

namespace Notes

open Connection (Call CallMoment Tallies)

/-- A store with one handle, on a database in memory. -/
def inMemory : Store := ((Store.empty.openHandle OpenOptions.memory).map Prod.snd).toOption.getD .empty

/-- Two notes are written.  After that no row is touched any more. -/
def additions : List Call :=
  [.script "CREATE TABLE notes (id INTEGER PRIMARY KEY, body TEXT)",
    .execute "INSERT INTO notes (body) VALUES (?), (?)" [.text "first", .text "second"],
    .execute "CREATE TABLE tags (name TEXT)" [],
    .execute "SELECT * FROM notes" [],
    .insert "SELECT 1" []]

/-- A new connection over the store, which is watched. -/
def fresh : Connection × Watched Store := (Connection.start ":memory:" 0, ⟨inMemory, []⟩)

theorem tallies_of_run_additions : Engine.counters 0 inMemory = (0, 0) ∧
    (Act.moments Call.act additions fresh).all (fun m => m.event.2.isOk) = true ∧
    ∀ m ∈ Act.moments Call.act additions fresh, Tallies (Store.counting 0) m := by
  have hfresh : Engine.counters 0 inMemory = (0, 0) := by decide +kernel
  refine ⟨hfresh, by decide +kernel, ?_⟩
  exact Connection.tallies_of_run (Store.counting 0) hfresh (Act.run_moments Call.act additions fresh)

/-- What a call reports, where it reports something: a number of rows, and keys. -/
def reported? (m : CallMoment (Watched Store)) : Option (Nat × List Value) :=
  match m.event.1 with
  | .execute sql parameters =>
    (((Connection.execute sql parameters).perform m.before).1.map fun n => (n, [])).toOption
  | .insert sql parameters =>
    (((Connection.insert sql parameters).perform m.before).1.map fun r => (r.rows, r.keys)).toOption
  | _ => none

/-- The rows that a demand touches and the last one that it adds, if it is to run a statement. -/
def done? (x : HandleId × Demand × Store) : Option (Nat × Option Int) :=
  match x.2.1 with
  | .run y => some ((Store.counting 0).touched y x.2.2, (Store.counting 0).lastAdded? y x.2.2)
  | _ => none

/-- The two rows of the insertion are reported again after each of the following statements, which touch
none; and the last of them, which was called for as an insertion but adds no row, reports the key of the
second note. -/
theorem reported_again :
    (Act.moments Call.act additions fresh).filterMap reported? =
      [(2, []), (2, []), (2, []), (2, [.bigInt 2])] ∧
    (Act.ending Call.act additions fresh).2.log.filterMap done? =
      [(2, some 2), (0, none), (0, none), (0, none)] := by
  decide +kernel

end Notes

end EntitySession.Sqlite
