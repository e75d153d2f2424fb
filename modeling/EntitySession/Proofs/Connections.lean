import EntitySession.Proofs.Acts
import EntitySession.Sqlite.Connection

/-!
# What a connection does with its engine

Each call of a connection is a short program over the engine and three flags.  Here every one of them is
read off once, so that nothing later opens its definition.

* The calls that decide about a transaction are refused, with everything as it was, or go the ways of
  ending one (`Finishes`): `conclude_cases` for committing and rolling back, which are the same program,
  `setAutoCommit_true_cases` and `close_cases`.
* The calls that run statements begin by entering (`Enters`).  Whoever has entered is `Ready`: each
  statement is a transaction of its own, or there is one for it.  From there on only the engine is
  changed: a single statement is prepared and run (`Attempts`), a script is executed.
-/

set_option autoImplicit false

namespace EntitySession.Sqlite.Connection

variable {ε α : Type}

/-! ## Links of the chains -/

@[simp] theorem perform_current (s : Connection × ε) : current.perform s = (.ok s.1, s) := rfl

@[simp] theorem perform_modify (f : Connection → Connection) (s : Connection × ε) :
    (modify f).perform s = (.ok (), (f s.1, s.2)) := rfl

theorem perform_reporting (error : Report → Error) (f : HandleId → ε → Except Report α × ε)
    (s : Connection × ε) : (reporting error f).perform s =
      ((f s.1.handle s.2).1.mapError error, (s.1, (f s.1.handle s.2).2)) := rfl

theorem perform_call (sql : String) (f : HandleId → ε → Except Report α × ε) (s : Connection × ε) :
    (call sql f).perform s = ((f s.1.handle s.2).1.mapError (fun report => report.error (some sql)),
      (s.1, (f s.1.handle s.2).2)) := rfl

theorem perform_ensureOpen_of_closed {s : Connection × ε} (hclosed : s.1.isClosed = true)
    (sql : Option String) : (ensureOpen sql).perform s =
      (.error (Fault.query .closed sql "connection is closed").error, s) := by
  rw [ensureOpen, Act.perform_bind_of_ok (perform_current s), if_pos hclosed]
  rfl

theorem perform_ensureOpen_of_open {s : Connection × ε} (hopen : s.1.isClosed = false)
    (sql : Option String) : (ensureOpen sql).perform s = (.ok (), s) := by
  rw [ensureOpen, Act.perform_bind_of_ok (perform_current s), hopen]
  rfl

/-- A closed connection refuses; an open one does what follows. -/
theorem ensureOpen_bind_cases {sql : Option String} {f : Unit → Act (Connection × ε) α}
    {s t : Connection × ε} {r : Except Error α} (h : (ensureOpen sql >>= f).perform s = (r, t)) :
    (t = s ∧ r.isOk = false) ∨ (s.1.isClosed = false ∧ (f ()).perform s = (r, t)) := by
  by_cases hclosed : s.1.isClosed = true
  · rw [Act.perform_bind_of_error (perform_ensureOpen_of_closed hclosed _)] at h
    obtain ⟨rfl, rfl⟩ := Prod.mk.inj h
    exact .inl ⟨rfl, rfl⟩
  · rw [Bool.not_eq_true] at hclosed
    rw [Act.perform_bind_of_ok (perform_ensureOpen_of_open hclosed _)] at h
    exact .inr ⟨hclosed, h⟩

variable [Engine ε]

/-! ## The end of a transaction -/

/-- The ways to end a transaction: there is none, it ends, or the engine fails and it stays. -/
inductive Finishes (sql : String) (how : HandleId → ε → Except Report Unit × ε) :
    Connection × ε → Except Error Unit → Connection × ε → Prop
  | none {c : Connection} {e : ε} (hin : c.inTransaction = false) :
      Finishes sql how (c, e) (.ok ()) (c, e)
  | ended {c : Connection} {e e' : ε} (hin : c.inTransaction = true)
      (hhow : how c.handle e = (.ok (), e')) :
      Finishes sql how (c, e) (.ok ()) ({ c with inTransaction := false }, e')
  | failed {c : Connection} {e e' : ε} {report : Report} (hin : c.inTransaction = true)
      (hhow : how c.handle e = (.error report, e')) :
      Finishes sql how (c, e) (.error (report.error (some sql))) (c, e')

omit [Engine ε] in
theorem finishes_finish (sql : String) (how : HandleId → ε → Except Report Unit × ε)
    (s : Connection × ε) :
    Finishes sql how s ((finish sql how).perform s).1 ((finish sql how).perform s).2 := by
  obtain ⟨c, e⟩ := s
  rw [finish, Act.perform_bind_of_ok (perform_current _)]
  by_cases hin : c.inTransaction = true
  · rw [if_pos hin, Act.perform_bind, perform_call]
    rcases hhow : how c.handle e with ⟨r, e'⟩
    cases r with
    | ok a => exact .ended hin hhow
    | error report => exact .failed hin hhow
  · rw [if_neg hin]
    exact .none (by simpa using hin)

/-- What committing and rolling back have in common. -/
def conclude (sql message : String) (how : HandleId → ε → Except Report Unit × ε) :
    Act (Connection × ε) Unit := do
  ensureOpen (some sql)
  let c ← current
  if c.autoCommit then refuse .database (some sql) message
  finish sql how

theorem commit_eq :
    (commit : Act (Connection × ε) Unit) =
      conclude "COMMIT" "cannot commit while autocommit is enabled" Engine.commit := rfl

theorem rollback_eq :
    (rollback : Act (Connection × ε) Unit) =
      conclude "ROLLBACK" "cannot roll back while autocommit is enabled" Engine.rollback := rfl

omit [Engine ε] in
/-- A conclusion that is refused changes nothing; one that is not is the end of the transaction. -/
theorem conclude_cases {sql message : String} {how : HandleId → ε → Except Report Unit × ε}
    {s t : Connection × ε} {r : Except Error Unit} (h : (conclude sql message how).perform s = (r, t)) :
    (t = s ∧ r.isOk = false) ∨ (s.1.isClosed = false ∧ Finishes sql how s r t) := by
  rw [conclude] at h
  obtain hrefused | ⟨hclosed, h⟩ := ensureOpen_bind_cases h
  · exact .inl hrefused
  · rw [Act.perform_bind_of_ok (perform_current s)] at h
    by_cases hauto : s.1.autoCommit = true
    · rw [if_pos hauto] at h
      obtain ⟨rfl, rfl⟩ := Prod.mk.inj h
      exact .inl ⟨rfl, rfl⟩
    · rw [if_neg hauto] at h
      have hfin := finishes_finish sql how s
      rw [h] at hfin
      exact .inr ⟨hclosed, hfin⟩

/-- Automatic commit is turned off at once. -/
theorem setAutoCommit_false_cases {s t : Connection × ε} {r : Except Error Unit}
    (h : (setAutoCommit false).perform s = (r, t)) :
    (t = s ∧ r.isOk = false) ∨ (r = .ok () ∧ t = ({ s.1 with autoCommit := false }, s.2)) := by
  rw [setAutoCommit] at h
  obtain hrefused | ⟨-, h⟩ := ensureOpen_bind_cases h
  · exact .inl hrefused
  · obtain ⟨rfl, rfl⟩ := Prod.mk.inj h
    exact .inr ⟨rfl, rfl⟩

/-- Automatic commit is turned on when the transaction has ended, and stays off when it has not. -/
theorem setAutoCommit_true_cases {s t : Connection × ε} {r : Except Error Unit}
    (h : (setAutoCommit true).perform s = (r, t)) :
    (t = s ∧ r.isOk = false) ∨
    (∃ u, Finishes "COMMIT" Engine.commit s (.ok ()) u ∧ r = .ok () ∧
      t = ({ u.1 with autoCommit := true }, u.2)) ∨
    (Finishes "COMMIT" Engine.commit s r t ∧ r.isOk = false) := by
  rw [setAutoCommit] at h
  obtain hrefused | ⟨-, h⟩ := ensureOpen_bind_cases h
  · exact .inl hrefused
  · have hfin := finishes_finish "COMMIT" Engine.commit s
    change (finish "COMMIT" Engine.commit >>= fun _ => modify _).perform s = (r, t) at h
    rcases hend : (finish "COMMIT" Engine.commit).perform s with ⟨r', u⟩
    rw [hend] at hfin
    cases r' with
    | ok a =>
      rw [Act.perform_bind_of_ok hend, perform_modify] at h
      obtain ⟨rfl, rfl⟩ := Prod.mk.inj h
      exact .inr (.inl ⟨u, hfin, rfl, rfl⟩)
    | error e =>
      rw [Act.perform_bind_of_error hend] at h
      obtain ⟨rfl, rfl⟩ := Prod.mk.inj h
      exact .inr (.inr ⟨hfin, rfl⟩)

/-- Automatic commit is what it was turned to. -/
theorem autoCommit_of_setAutoCommit {on : Bool} {s t : Connection × ε}
    (h : (setAutoCommit on).perform s = (.ok (), t)) : t.1.autoCommit = on := by
  cases on with
  | false =>
    rcases setAutoCommit_false_cases h with ⟨-, hr⟩ | ⟨-, rfl⟩
    · cases hr
    · rfl
  | true =>
    rcases setAutoCommit_true_cases h with ⟨-, hr⟩ | ⟨u, -, -, rfl⟩ | ⟨-, hr⟩
    · cases hr
    · rfl
    · cases hr

/-- A connection is closed once, together with its transaction; a handle that is not given up leaves
everything as it was. -/
theorem close_cases {s t : Connection × ε} {r : Except Error Unit} (h : close.perform s = (r, t)) :
    (s.1.isClosed = true ∧ r = .ok () ∧ t = s) ∨
    (s.1.isClosed = false ∧ r = .ok () ∧ ∃ e, Engine.close s.1.handle s.2 = (.ok (), e) ∧
      t = ({ s.1 with isClosed := true, inTransaction := false }, e)) ∨
    (r.isOk = false ∧ ∃ f, Engine.close s.1.handle s.2 = (.error f, t.2) ∧ t.1 = s.1) := by
  rw [close, Act.perform_bind_of_ok (perform_current s)] at h
  by_cases hclosed : s.1.isClosed = true
  · rw [hclosed] at h
    obtain ⟨rfl, rfl⟩ := Prod.mk.inj h
    exact .inl ⟨hclosed, rfl, rfl⟩
  · rw [Bool.not_eq_true] at hclosed
    rw [hclosed] at h
    change (reporting closingError Engine.close >>= fun _ => modify _).perform s = (r, t) at h
    rw [Act.perform_bind, perform_reporting] at h
    rcases hengine : Engine.close s.1.handle s.2 with ⟨r', e⟩
    rw [hengine] at h
    cases r' with
    | ok a =>
      obtain ⟨rfl, rfl⟩ := Prod.mk.inj h
      exact .inr (.inl ⟨hclosed, rfl, e, rfl, rfl⟩)
    | error f =>
      obtain ⟨rfl, rfl⟩ := Prod.mk.inj h
      exact .inr (.inr ⟨rfl, f, rfl, rfl⟩)

/-! ## Before a statement -/

/-- Statements may be run: each is a transaction of its own, or there is one for them. -/
def Ready (s : Connection × ε) : Prop := s.1.autoCommit = true ∨ s.1.inTransaction = true

/-- The ways to begin with a text. -/
inductive Enters : Connection × ε → Except Error Unit → Connection × ε → Prop
  /-- It is refused before anything is done. -/
  | refused {s : Connection × ε} {err : Error} : Enters s (.error err) s
  /-- There is no need to begin a transaction; a text with a NUL is refused after that. -/
  | ready {s : Connection × ε} {r : Except Error Unit} (hready : Ready s) : Enters s r s
  | begun {c : Connection} {e e' : ε} {r : Except Error Unit} (hclosed : c.isClosed = false)
      (hauto : c.autoCommit = false) (hin : c.inTransaction = false)
      (hbegin : Engine.begin c.handle e = (.ok (), e')) :
      Enters (c, e) r ({ c with inTransaction := true }, e')
  | failed {c : Connection} {e e' : ε} {err : Error} {report : Report} (hin : c.inTransaction = false)
      (hbegin : Engine.begin c.handle e = (.error report, e')) : Enters (c, e) (.error err) (c, e')

theorem perform_beginIfNeeded_of_ready {s : Connection × ε} (hready : Ready s) :
    beginIfNeeded.perform s = (.ok (), s) := by
  have hneed : (!s.1.autoCommit && !s.1.inTransaction) = false := by
    rcases hready with h | h <;> simp [h]
  rw [beginIfNeeded, Act.perform_bind_of_ok (perform_current s), hneed]
  rfl

theorem perform_beginIfNeeded {c : Connection} {e : ε} (hauto : c.autoCommit = false)
    (hin : c.inTransaction = false) : beginIfNeeded.perform (c, e) =
      (call "BEGIN" Engine.begin >>= fun _ =>
        modify fun c => { c with inTransaction := true }).perform (c, e) := by
  rw [beginIfNeeded, Act.perform_bind_of_ok (perform_current _), hauto, hin]
  rfl

theorem enters_enter (sql : String) (s : Connection × ε) :
    Enters s ((enter sql).perform s).1 ((enter sql).perform s).2 := by
  -- the check for a NUL comes last, and changes nothing
  have hcheck (t : Connection × ε) : ∃ r, Act.perform (if sql.toList.contains '\x00' then
      refuse .syntaxError (some sql) "SQL contains null byte" else pure ()) t = (r, t) := by
    split <;> exact ⟨_, rfl⟩
  obtain ⟨c, e⟩ := s
  rw [enter]
  by_cases hclosed : c.isClosed = true
  · rw [Act.perform_bind_of_error (perform_ensureOpen_of_closed hclosed _)]
    exact .refused
  · rw [Bool.not_eq_true] at hclosed
    rw [Act.perform_bind_of_ok (perform_ensureOpen_of_open hclosed _)]
    by_cases hready : Ready (c, e)
    · obtain ⟨r, hr⟩ := hcheck (c, e)
      rw [Act.perform_bind_of_ok (perform_beginIfNeeded_of_ready hready), hr]
      exact .ready hready
    · obtain ⟨hauto, hin⟩ : c.autoCommit = false ∧ c.inTransaction = false := by
        simpa [Ready] using hready
      rcases hbegin : Engine.begin c.handle e with ⟨r, e'⟩
      cases r with
      | ok a =>
        have hbegun :
            beginIfNeeded.perform (c, e) = (.ok (), ({ c with inTransaction := true }, e')) := by
          rw [perform_beginIfNeeded hauto hin, Act.perform_bind, perform_call, hbegin]
          rfl
        obtain ⟨r, hr⟩ := hcheck ({ c with inTransaction := true }, e')
        rw [Act.perform_bind_of_ok hbegun, hr]
        exact .begun hclosed hauto hin hbegin
      | error report =>
        have hfailed :
            beginIfNeeded.perform (c, e) = (.error (report.error (some "BEGIN")), (c, e')) := by
          rw [perform_beginIfNeeded hauto hin, Act.perform_bind, perform_call, hbegin]
          rfl
        rw [Act.perform_bind_of_error hfailed]
        exact .failed hin hbegin

/-- Whoever has entered is ready. -/
theorem ready_of_enter {sql : String} {s t : Connection × ε}
    (h : (enter sql).perform s = (.ok (), t)) : Ready t := by
  have henters := enters_enter sql s
  rw [h] at henters
  cases henters with
  | ready hready => exact hready
  | begun => exact .inr rfl

/-! ## Statements -/

/-- The ways of a statement that may be run, and whether it succeeds.  Whatever happens, only the engine
is changed. -/
inductive Attempts (sql : String) (cells : List Cell) :
    Connection × ε → Bool → Connection × ε → Prop
  /-- The text has no statement, or it cannot be prepared, or a parameter cannot be bound. -/
  | prepared (c : Connection) (e : ε) :
      Attempts sql cells (c, e) false (c, (Engine.prepare c.handle sql e).2)
  | failed {c : Connection} {e e' : ε} {report : Report}
      (hrun : Engine.run c.handle sql cells (Engine.prepare c.handle sql e).2 = (.error report, e')) :
      Attempts sql cells (c, e) false (c, e')
  | ran {c : Connection} {e e' : ε} {rows : List (List Cell)}
      (hrun : Engine.run c.handle sql cells (Engine.prepare c.handle sql e).2 = (.ok rows, e')) :
      Attempts sql cells (c, e) true (c, e')

/-- To prepare a statement is to ask the engine once, however it goes on. -/
theorem prepare_bind_cases {sql : String} {f : List String → Act (Connection × ε) α}
    {s t : Connection × ε} {r : Except Error α} (h : (prepare sql >>= f).perform s = (r, t)) :
    (r.isOk = false ∧ t = (s.1, (Engine.prepare s.1.handle sql s.2).2)) ∨
    ∃ names, (f names).perform (s.1, (Engine.prepare s.1.handle sql s.2).2) = (r, t) := by
  rw [prepare, bind_assoc, Act.perform_bind, perform_call] at h
  rcases hengine : Engine.prepare s.1.handle sql s.2 with ⟨report | (_ | names), e⟩ <;> rw [hengine] at h
  · obtain ⟨rfl, rfl⟩ := Prod.mk.inj h
    exact .inl ⟨rfl, rfl⟩
  · obtain ⟨rfl, rfl⟩ := Prod.mk.inj h
    exact .inl ⟨rfl, rfl⟩
  · exact .inr ⟨columnNames names, h⟩

/-- To bind parameters changes nothing. -/
theorem perform_bindFrom (sql : String) (position : Nat) (cells : List Cell) (s : Connection × ε) :
    ∃ r, (bindFrom sql position cells).perform s = (r, s) := by
  induction cells generalizing position with
  | nil => exact ⟨_, rfl⟩
  | cons x rest ih =>
    rw [bindFrom, Act.perform_bind, Act.perform_reading]
    dsimp only
    cases (Engine.bind s.1.handle sql position x s.2).mapError (bindingError sql position) with
    | error err => exact ⟨_, rfl⟩
    | ok a => exact ih (position + 1)

/-- A parameter cannot be bound, or what follows is done after binding all of them. -/
theorem bindFrom_bind_cases {sql : String} {position : Nat} {cells : List Cell}
    {f : Unit → Act (Connection × ε) α} {s t : Connection × ε} {r : Except Error α}
    (h : (bindFrom sql position cells >>= f).perform s = (r, t)) :
    (r.isOk = false ∧ t = s) ∨ (f ()).perform s = (r, t) := by
  obtain ⟨r', hbind⟩ := perform_bindFrom sql position cells s
  cases r' with
  | error err =>
    rw [Act.perform_bind_of_error hbind] at h
    obtain ⟨rfl, rfl⟩ := Prod.mk.inj h
    exact .inl ⟨rfl, rfl⟩
  | ok a =>
    rw [Act.perform_bind_of_ok hbind] at h
    exact .inr h

/-- A text with parameters is entered, and then its first statement is attempted. -/
theorem run_cases {sql : String} {parameters : List Value} {s t : Connection × ε}
    {r : Except Error (List String × List (List Cell))} (h : (run sql parameters).perform s = (r, t)) :
    (r.isOk = false ∧ ∃ err, (enter sql).perform s = (.error err, t)) ∨
    ∃ u, (enter sql).perform s = (.ok (), u) ∧
      Attempts sql (parameters.map Cell.ofValue) u r.isOk t := by
  rw [run] at h
  rcases henter : (enter sql).perform s with ⟨r', c, e⟩
  cases r' with
  | error err =>
    rw [Act.perform_bind_of_error henter] at h
    obtain ⟨rfl, rfl⟩ := Prod.mk.inj h
    exact .inl ⟨rfl, err, rfl⟩
  | ok a =>
    rw [Act.perform_bind_of_ok henter] at h
    refine .inr ⟨(c, e), rfl, ?_⟩
    obtain ⟨hr, rfl⟩ | ⟨names, h⟩ := prepare_bind_cases h
    · rw [hr]
      exact .prepared c e
    · obtain ⟨hr, rfl⟩ | h := bindFrom_bind_cases h
      · rw [hr]
        exact .prepared c e
      · rw [Act.perform_bind, perform_call] at h
        rcases hrun : Engine.run c.handle sql (parameters.map Cell.ofValue)
          (Engine.prepare c.handle sql e).2 with ⟨report | rows, e'⟩
        · rw [hrun] at h
          obtain ⟨rfl, rfl⟩ := Prod.mk.inj h
          exact .failed hrun
        · rw [hrun] at h
          obtain ⟨rfl, rfl⟩ := Prod.mk.inj h
          exact .ran hrun

/-- A text with parameters that is run without a failure: its first statement is run in the engine, once
the text was entered and the statement prepared. -/
theorem run_ok {sql : String} {parameters : List Value} {s t : Connection × ε}
    {a : List String × List (List Cell)} (h : (run sql parameters).perform s = (.ok a, t)) :
    ∃ c e rows e', (enter sql).perform s = (.ok (), (c, e)) ∧ t = (c, e') ∧
      Engine.run c.handle sql (parameters.map Cell.ofValue) (Engine.prepare c.handle sql e).2 =
        (.ok rows, e') := by
  obtain ⟨hr, -⟩ | ⟨⟨c, e⟩, henter, hattempt⟩ := run_cases h
  · cases hr
  · cases hattempt with
    | ran hrun => exact ⟨c, e, _, _, henter, rfl, hrun⟩

/-- A script is entered, and then the engine executes it. -/
theorem runScript_cases {sql : String} {s t : Connection × ε} {r : Except Error Unit}
    (h : (runScript sql).perform s = (r, t)) :
    (r.isOk = false ∧ ∃ err, (enter sql).perform s = (.error err, t)) ∨
    ∃ u, (enter sql).perform s = (.ok (), u) ∧ t = (u.1, (Engine.exec u.1.handle sql u.2).2) := by
  rw [runScript] at h
  rcases henter : (enter sql).perform s with ⟨r', u⟩
  cases r' with
  | error err =>
    rw [Act.perform_bind_of_error henter] at h
    obtain ⟨rfl, rfl⟩ := Prod.mk.inj h
    exact .inl ⟨rfl, err, rfl⟩
  | ok a =>
    rw [Act.perform_bind_of_ok henter, perform_call] at h
    exact .inr ⟨u, rfl, (Prod.mk.inj h).2.symm⟩

/-! ### What a caller is answered -/

omit [Engine ε] in
/-- To look at the engine afterwards does not change how a call has gone. -/
theorem perform_bind_look {β : Type} {x : Act (Connection × ε) α} {f : α → Act (Connection × ε) β}
    {s t : Connection × ε} {r : Except Error β} (hf : ∀ a u, ∃ b, (f a).perform u = (.ok b, u))
    (h : (x >>= f).perform s = (r, t)) : ∃ r', x.perform s = (r', t) ∧ r'.isOk = r.isOk := by
  rcases hx : x.perform s with ⟨r', u⟩
  cases r' with
  | error err =>
    rw [Act.perform_bind_of_error hx] at h
    obtain ⟨rfl, rfl⟩ := Prod.mk.inj h
    exact ⟨_, rfl, rfl⟩
  | ok a =>
    obtain ⟨b, hb⟩ := hf a u
    rw [Act.perform_bind_of_ok hx, hb] at h
    obtain ⟨rfl, rfl⟩ := Prod.mk.inj h
    exact ⟨_, rfl, rfl⟩

variable {sql : String} {parameters : List Value} {s t : Connection × ε}

theorem query_run {r : Except Error (List Row)} (h : (query sql parameters).perform s = (r, t)) :
    ∃ r', (run sql parameters).perform s = (r', t) ∧ r'.isOk = r.isOk :=
  perform_bind_look (fun _ _ => ⟨_, rfl⟩) h

theorem execute_run {r : Except Error Nat} (h : (execute sql parameters).perform s = (r, t)) :
    ∃ r', (run sql parameters).perform s = (r', t) ∧ r'.isOk = r.isOk :=
  perform_bind_look (fun _ _ => ⟨_, rfl⟩) h

theorem insert_run {r : Except Error InsertResult} (h : (insert sql parameters).perform s = (r, t)) :
    ∃ r', (run sql parameters).perform s = (r', t) ∧ r'.isOk = r.isOk := by
  have hlook (rows : Nat) (u : Connection × ε) : ∃ b : InsertResult, Act.perform
      (if rows = 0 then pure ⟨0, []⟩
        else do
          let id ← ask Engine.lastRowId
          pure ⟨rows, [.bigInt (Int64.ofInt id)]⟩) u = (.ok b, u) := by
    split <;> exact ⟨_, rfl⟩
  obtain ⟨r', hexecute, hr'⟩ := perform_bind_look hlook h
  obtain ⟨r'', hrun, hr''⟩ := execute_run hexecute
  exact ⟨r'', hrun, hr''.trans hr'⟩

end EntitySession.Sqlite.Connection
