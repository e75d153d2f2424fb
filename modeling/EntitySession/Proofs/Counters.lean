import EntitySession.Proofs.Demands
import EntitySession.Proofs.Results
import EntitySession.Sqlite.Store

/-!
# What the counters of an engine count

An engine keeps two counters for each of its handles: how many rows were changed by the last statement
that changes rows, and the identifier of the row that was added last.  `Counting` is what it promises
about them.  A statement that inserts, updates or deletes rows sets the first one, to the number of the
rows that it has touched, and one that inserts a row sets the second; everything else leaves both as
they are.

A `Store` keeps the promise (`Store.counting`).  What it reports is compared with the tables: an
insertion has touched as many rows as its table has grown by, an update or a deletion as many as satisfy
its condition (`Contents.touched`).  That the two agree is an induction on the rows of an insertion,
whose count goes along with the table (`Contents.length_addRows`).
-/

set_option autoImplicit false

namespace EntitySession.Sqlite

namespace Command

/-- Whether the statement inserts, updates or deletes rows. -/
def changesRows : Command → Bool
  | insert _ _ _ _ | update _ _ _ | delete _ _ => true
  | _ => false

/-- Whether the statement inserts rows. -/
def addsRows : Command → Bool
  | insert _ _ _ _ => true
  | _ => false

theorem changesRows_of_addsRows {c : Command} (h : c.addsRows = true) : c.changesRows = true := by
  cases c <;> first | rfl | cases h

end Command

/-- The two counters of a handle. -/
def Engine.counters {ε : Type} [Engine ε] (i : HandleId) (e : ε) : Nat × Int :=
  (Engine.changes i e, Engine.lastRowId i e)

/-- The promise of an engine about the counters of one of its handles.  Of a statement that fails it is
only said that it sets no counter that a statement of its kind would not set. -/
structure Counting (ε : Type) [Engine ε] (i : HandleId) extends Scripting ε i where
  /-- Whether the first statement of a text inserts, updates or deletes rows. -/
  changesRows : String → Bool
  /-- Whether the first statement of a text inserts rows. -/
  addsRows : String → Bool
  changesRows_of_addsRows : ∀ sql, addsRows sql = true → changesRows sql = true
  /-- How many rows a statement inserts, updates or deletes in the state that it finds. -/
  touched : Performed → ε → Nat
  /-- The identifier of the last row that a statement inserts, if it inserts one. -/
  lastAdded? : Performed → ε → Option Int
  touched_of_not : ∀ x e, changesRows x.sql = false → touched x e = 0
  lastAdded?_of_not : ∀ x e, addsRows x.sql = false → lastAdded? x e = none
  isSome_lastAdded? : ∀ x e, addsRows x.sql = true → (Engine.run i x.sql x.cells e).1.isOk = true →
    ((lastAdded? x e).isSome = true ↔ touched x e ≠ 0)
  counters_run : ∀ x e, Engine.counters i (Engine.run i x.sql x.cells e).2 =
    (if changesRows x.sql then touched x e else Engine.changes i e,
      (lastAdded? x e).getD (Engine.lastRowId i e))
  counters_prepare : ∀ sql (e : ε),
    Engine.counters i (Engine.prepare i sql e).2 = Engine.counters i e
  counters_begin : ∀ e : ε, Engine.counters i (Engine.begin i e).2 = Engine.counters i e
  counters_commit : ∀ e : ε, Engine.counters i (Engine.commit i e).2 = Engine.counters i e
  counters_rollback : ∀ e : ε, Engine.counters i (Engine.rollback i e).2 = Engine.counters i e
  /-- A handle that was given up has no counters any more. -/
  counters_close : ∀ e : ε, (Engine.close i e).1.isOk = false →
    Engine.counters i (Engine.close i e).2 = Engine.counters i e

/-! ## The rows that a statement touches -/

namespace Contents

/-- How many rows a table has. -/
def size (d : Contents) (name : String) : Nat :=
  ((d.table? name).map fun t => t.rows.length).getD 0

/-- How many rows of a table satisfy a condition. -/
def countMatching (d : Contents) (cells : List Cell) (name : String) (condition : Option Condition) :
    Nat :=
  ((d.table name).bind fun t => (matchingIds t name cells condition).map List.length).toOption.getD 0

/-- How many rows a statement that succeeds inserts, updates or deletes: those by which the table has
grown, or those that satisfy its condition. -/
def touched (d : Contents) (cells : List Cell) (c : Command) : Nat :=
  match c with
  | .insert _ name _ _ => (((d.run cells c).contents).getD d).size name - d.size name
  | .update name _ condition | .delete name condition => d.countMatching cells name condition
  | _ => 0

theorem length_place (row : StoredRow) (rows : List StoredRow) :
    (StoredTable.place row rows).length = rows.length + 1 := by
  induction rows with
  | nil => rfl
  | cons r rest ih =>
    rw [StoredTable.place]
    split
    · rfl
    · rw [List.length_cons, ih, List.length_cons]

/-- A row that is added makes its table longer by one. -/
theorem length_add {t u : StoredTable} {cells : List Cell} {id : Int} (h : t.add cells = .ok (id, u)) :
    u.name = t.name ∧ u.rows.length = t.rows.length + 1 := by
  rw [StoredTable.add] at h
  split at h
  all_goals
    obtain ⟨newId, -, h⟩ := bind_eq_ok.1 h
    obtain ⟨-, -, h⟩ := bind_eq_ok.1 h
    cases h
    exact ⟨rfl, length_place _ _⟩

/-- A row that is left out leaves the others. -/
theorem rows_skip (t : StoredTable) (cells : List Cell) :
    (t.skip cells).name = t.name ∧ (t.skip cells).rows = t.rows := by
  rw [StoredTable.skip]
  split <;> exact ⟨rfl, rfl⟩

/-- An insertion that goes through counts the rows by which its table grows, and knows the identifier of
the last one if there is one. -/
theorem length_addRows {parameters : List Cell} {ignore : Bool} {columns : Option (List String)}
    {rows : List (List Operand)} {t : StoredTable} {added : Nat} {lastId : Option Int} {r : Insertion}
    (h : addRows parameters ignore columns rows t added lastId = r) (hdone : r.failure = none)
    (hid : lastId.isSome = true ↔ added ≠ 0) :
    r.table.name = t.name ∧ r.table.rows.length + added = t.rows.length + r.added ∧
      (r.lastId.isSome = true ↔ r.added ≠ 0) := by
  induction rows generalizing t added lastId with
  | nil =>
    subst h
    exact ⟨rfl, rfl, hid⟩
  | cons row rest ih =>
    rw [addRows] at h
    split at h
    · subst h
      cases hdone
    · next given hgiven =>
      dsimp only at h
      split at h
      · next id u hadd =>
        obtain ⟨hname, hlength⟩ := length_add hadd
        obtain ⟨hn, hl, hi⟩ := ih h (by simp)
        exact ⟨hn.trans hname, by omega, hi⟩
      · next f hadd =>
        split at h
        · obtain ⟨hname, hrows⟩ := rows_skip t (newCells t columns given)
          obtain ⟨hn, hl, hi⟩ := ih h hid
          rw [hrows] at hl
          exact ⟨hn.trans hname, hl, hi⟩
        · subst h
          cases hdone

theorem size_of_table? {d : Contents} {name : String} {t : StoredTable} (h : d.table? name = some t) :
    d.size name = t.rows.length := by
  rw [size, h]
  rfl

/-- What was put in the place of a table is found under its name. -/
theorem table?_setTable {d : Contents} {name : String} {t u : StoredTable}
    (ht : d.table? name = some t) (hu : u.name = t.name) : (d.setTable u).table? name = some u := by
  have hname (x : StoredTable) : (if x.name == u.name then u else x).name = x.name := by
    split
    · next h => exact (beq_iff_eq.1 h).symm
    · rfl
  rw [table?, setTable, List.find?_map]
  have hsame : ((fun x : StoredTable => StoredTable.sameName x.name name) ∘
      fun x => if x.name == u.name then u else x) = fun x => StoredTable.sameName x.name name := by
    funext x
    rw [Function.comp_apply, hname]
  rw [hsame, show d.find? _ = some t from ht, Option.map_some, hu, beq_self_eq_true, if_pos rfl]

theorem table?_of_table {d : Contents} {name : String} {t : StoredTable} (h : d.table name = .ok t) :
    d.table? name = some t := by
  rw [table] at h
  split at h
  · next u hu =>
    cases h
    exact hu
  · cases h

theorem countMatching_of_ok {d : Contents} {cells : List Cell} {name : String}
    {condition : Option Condition} {t : StoredTable} {ids : List Int} (ht : d.table name = .ok t)
    (hids : matchingIds t name cells condition = .ok ids) :
    d.countMatching cells name condition = ids.length := by
  rw [countMatching, ht, Except.bind, hids]
  rfl

/-- What the execution of a statement counts that either fails or changes a known number of rows. -/
theorem changed_executionOf (d : Contents) {r : Except Failure (StoredTable × Nat)} {n : Nat}
    (hn : ∀ t changed, r = .ok (t, changed) → n = changed) :
    (d.executionOf r).changed = some (if (d.executionOf r).result.isOk then n else 0) := by
  cases r with
  | error f => rfl
  | ok x => exact congrArg some (hn x.1 x.2 rfl).symm

/-- What an insertion into a table counts. -/
theorem changed_executionOfInsertion {d : Contents} {t : StoredTable} {name : String} {takesBack : Bool}
    {r : Insertion} (ht : d.table? name = some t) (hname : r.failure = none → r.table.name = t.name)
    (hlength : r.failure = none → r.table.rows.length = t.rows.length + r.added) :
    let e := d.executionOfInsertion t takesBack r
    e.changed = some (if e.result.isOk then (e.contents.getD d).size name - d.size name else 0) := by
  unfold executionOfInsertion
  split
  · next hdone =>
    change some r.added = some (Contents.size (d.setTable r.table) name - d.size name)
    rw [size_of_table? (table?_setTable ht (hname hdone)), size_of_table? ht, hlength hdone,
      Nat.add_sub_cancel_left]
  · rfl

/-- A statement counts the rows that it touches, and none if it fails. -/
theorem changed_run (d : Contents) (cells : List Cell) (c : Command) :
    (d.run cells c).changed = if c.changesRows then
      some (if (d.run cells c).result.isOk then d.touched cells c else 0) else none := by
  cases c with
  | createTable name written columns => rfl
  | dropTable name => rfl
  | select outputs source => rfl
  | insert ignore name columns rows =>
    change (d.run cells (.insert ignore name columns rows)).changed = some _
    rw [touched, run]
    split
    · rfl
    · next t ht =>
      refine changed_executionOfInsertion (table?_of_table ht) (fun hdone => ?_) fun hdone => ?_
      · exact (length_addRows rfl hdone (by simp)).1
      · exact (length_addRows rfl hdone (by simp)).2.1
  | update name changes condition =>
    refine changed_executionOf d fun u changed h => ?_
    obtain ⟨t, ht, h⟩ := bind_eq_ok.1 h
    obtain ⟨ids, hids, h⟩ := bind_eq_ok.1 h
    obtain ⟨assigned, hassigned, h⟩ := bind_eq_ok.1 h
    obtain ⟨changedTable, hchanged, h⟩ := bind_eq_ok.1 h
    cases h
    exact countMatching_of_ok ht hids
  | delete name condition =>
    refine changed_executionOf d fun u changed h => ?_
    obtain ⟨t, ht, h⟩ := bind_eq_ok.1 h
    obtain ⟨ids, hids, h⟩ := bind_eq_ok.1 h
    cases h
    exact countMatching_of_ok ht hids

theorem touched_of_not (d : Contents) (cells : List Cell) {c : Command} (hc : c.changesRows = false) :
    d.touched cells c = 0 := by
  cases c <;> first | rfl | cases hc

theorem lastId_executionOf (d : Contents) (r : Except Failure (StoredTable × Nat)) :
    (d.executionOf r).lastId = none := by
  cases r <;> rfl

theorem lastId_run_of_not (d : Contents) (cells : List Cell) {c : Command} (hc : c.addsRows = false) :
    (d.run cells c).lastId = none := by
  cases c with
  | insert ignore name columns rows => cases hc
  | createTable name written columns => rfl
  | dropTable name => rfl
  | select outputs source => rfl
  | update name changes condition => exact lastId_executionOf d _
  | delete name condition => exact lastId_executionOf d _

/-- An insertion that succeeds knows the identifier of its last row, if it has added one. -/
theorem isSome_lastId_iff {d : Contents} {cells : List Cell} {c : Command} (hc : c.addsRows = true)
    (hok : (d.run cells c).result.isOk = true) :
    (d.run cells c).lastId.isSome = true ↔ (d.run cells c).changed ≠ some 0 := by
  cases c with
  | insert ignore name columns rows =>
    rw [run] at hok ⊢
    split at hok
    · cases hok
    · next t ht =>
      unfold executionOfInsertion at hok ⊢
      split at hok
      · next hdone =>
        simpa using (length_addRows rfl hdone (by simp)).2.2
      · cases hok
  | _ => cases hc

/-- An insertion that succeeds knows the identifier of its last row exactly if it has touched one. -/
theorem isSome_lastId_run {d : Contents} {cells : List Cell} {c : Command} (hc : c.addsRows = true)
    (hok : (d.run cells c).result.isOk = true) :
    (d.run cells c).lastId.isSome = true ↔ d.touched cells c ≠ 0 := by
  rw [isSome_lastId_iff hc hok, changed_run, if_pos (Command.changesRows_of_addsRows hc), if_pos hok,
    ne_eq, Option.some_inj]

end Contents

/-! ## The counters of a store -/

namespace Store

variable {s : Store} {i : HandleId} {h : Handle}

theorem counters_of_handle (hi : s.handles[i]? = some h) :
    Engine.counters i s = (h.changes, h.lastRowId) := by
  change (((s.handles[i]?).map Handle.changes).getD 0, ((s.handles[i]?).map Handle.lastRowId).getD 0) = _
  rw [hi]
  rfl

theorem counters_of_none (hi : s.handles[i]? = none) : Engine.counters i s = (0, 0) := by
  change (((s.handles[i]?).map Handle.changes).getD 0, ((s.handles[i]?).map Handle.lastRowId).getD 0) = _
  rw [hi]
  rfl

theorem getElem?_setHandle (hi : s.handles[i]? = some h) (x : Handle) :
    (s.setHandle i x).handles[i]? = some x :=
  Array.getElem?_setIfInBounds_self_of_lt (Array.getElem?_eq_some_iff.1 hi).1

theorem counters_setHandle (hi : s.handles[i]? = some h) (x : Handle) :
    Engine.counters i (s.setHandle i x) = (x.changes, x.lastRowId) :=
  counters_of_handle (getElem?_setHandle hi x)

/-- What is done with a handle leaves its counters as they are if it leaves those of every handle. -/
theorem counters_onHandle (f : Store → Handle → Except Failure Unit × Store)
    (hf : ∀ h, s.handles[i]? = some h → Engine.counters i (f s h).2 = (h.changes, h.lastRowId)) :
    Engine.counters i (onHandle i f s).2 = Engine.counters i s := by
  rw [onHandle]
  split
  · rfl
  · next h hi => rw [hf h hi, counters_of_handle hi]

theorem counters_ending {how : String} {f : Store → Handle → Except Failure Unit × Store}
    (hi : s.handles[i]? = some h) (hf : Engine.counters i (f s h).2 = (h.changes, h.lastRowId)) :
    Engine.counters i (ending how f s h).2 = (h.changes, h.lastRowId) := by
  rw [ending]
  split
  · exact hf
  · exact counters_of_handle hi

/-- A handle that was committed, or was not, keeps its counters. -/
theorem handle_commitHandle (hi : s.handles[i]? = some h) (x : Handle) :
    ∃ y, (s.commitHandle i x).2.handles[i]? = some y ∧ y.changes = x.changes ∧
      y.lastRowId = x.lastRowId := by
  rw [commitHandle]
  split
  · exact ⟨_, getElem?_setHandle hi _, rfl, rfl⟩
  · split
    · exact ⟨_, getElem?_setHandle hi _, rfl, rfl⟩
    · exact ⟨_, getElem?_setHandle (s := { s with files := _ }) hi _, rfl, rfl⟩

theorem counters_commitHandle (hi : s.handles[i]? = some h) (x : Handle) :
    Engine.counters i (s.commitHandle i x).2 = (x.changes, x.lastRowId) := by
  obtain ⟨y, hy, hchanges, hid⟩ := handle_commitHandle hi x
  rw [counters_of_handle hy, hchanges, hid]

theorem counters_prepareCommand (i : HandleId) (c : Command) (s : Store) :
    Engine.counters i (s.prepareCommand i c).2 = Engine.counters i s := by
  rw [prepareCommand]
  split
  · rfl
  · next h hi =>
    rw [counters_of_handle hi]
    split
    · exact counters_of_handle hi
    · split
      · exact counters_of_handle hi
      · exact counters_setHandle hi _

theorem changesOfRefused_eq (h : Handle) (c : Command) :
    changesOfRefused h c = if c.changesRows then 0 else h.changes := by
  cases c <;> rfl

theorem lockForWriting_eq_ok {x : Handle} (hx : s.lockForWriting i h = .ok x) :
    ∃ lock, x = { h with lock := lock } := by
  rw [lockForWriting] at hx
  split at hx
  · cases hx
  · split at hx
    · exact ⟨h.lock, (Except.ok.inj hx).symm⟩
    · split at hx
      · cases hx
      · exact ⟨_, (Except.ok.inj hx).symm⟩

theorem lockForReading_eq_ok {x : Handle} (hx : s.lockForReading i h = .ok x) :
    ∃ lock, x = { h with lock := lock } := by
  rw [lockForReading] at hx
  split at hx
  · exact ⟨h.lock, (Except.ok.inj hx).symm⟩
  · split at hx
    · cases hx
    · exact ⟨_, (Except.ok.inj hx).symm⟩

/-- To take the lock that a command needs changes nothing but the lock. -/
theorem lockFor_eq_ok {c : Command} {x : Handle} (hx : s.lockFor i h c = .ok x) :
    ∃ lock, x = { h with lock := lock } := by
  rw [lockFor] at hx
  split at hx
  · exact lockForWriting_eq_ok hx
  · split at hx
    · exact lockForReading_eq_ok hx
    · exact ⟨h.lock, (Except.ok.inj hx).symm⟩

/-- What the counters are to be when a command has been run for a handle, on contents and with an
outcome. -/
def Counts (i : HandleId) (h : Handle) (d : Contents) (c : Command) (cells : List Cell)
    (r : Except Failure Rows × Store) (lastId : Option Int) : Prop :=
  Engine.counters i r.2 =
    (if c.changesRows then (if r.1.isOk then d.touched cells c else 0) else h.changes,
      lastId.getD h.lastRowId)

/-- A command that cannot begin. -/
theorem counts_refused (hi : s.handles[i]? = some h) {x : Handle} {c : Command} {cells : List Cell}
    {f : Failure} (d : Contents) (hchanges : x.changes = changesOfRefused h c)
    (hid : x.lastRowId = h.lastRowId) :
    Counts i h d c cells (.error f, s.setHandle i x) none := by
  rw [Counts, counters_setHandle hi, hchanges, changesOfRefused_eq, hid]
  rfl

/-- The counters of a handle that has run a command. -/
theorem changes_execute (s : Store) (x : Handle) (c : Command) (cells : List Cell) :
    (s.execute x c cells).1 = ((s.contents x).run cells c).result ∧
    (s.execute x c cells).2.changes = (((s.contents x).run cells c).changed).getD x.changes ∧
    (s.execute x c cells).2.lastRowId = (((s.contents x).run cells c).lastId).getD x.lastRowId := by
  rw [execute]
  split <;> exact ⟨rfl, rfl, rfl⟩

theorem changes_execute_eq (s : Store) (x : Handle) (c : Command) (cells : List Cell) :
    (s.execute x c cells).2.changes = if c.changesRows then
      (if (s.execute x c cells).1.isOk then (s.contents x).touched cells c else 0) else x.changes := by
  obtain ⟨hresult, hchanges, -⟩ := changes_execute s x c cells
  rw [hchanges, hresult, Contents.changed_run]
  split <;> rfl

/-- The three ways of a command that is a transaction of its own: it fails, it lasts, or it is given up
because it cannot be committed. -/
theorem runAlone_cases {x after : Handle} {c : Command} {cells : List Cell} {r : Except Failure Rows}
    (hexecute : s.execute x c cells = (r, after)) :
    (∃ f, r = .error f ∧ s.runAlone i x c cells = (.error f, s.setHandle i (s.abandoned after))) ∨
    (∃ rows u, r = .ok rows ∧ s.commitHandle i after = (.ok (), u) ∧
      s.runAlone i x c cells = (.ok rows, u)) ∨
    ∃ f u, s.commitHandle i after = (.error f, u) ∧
      s.runAlone i x c cells = (.error f, u.setHandle i (u.abandoned (refused after c))) := by
  rw [runAlone, hexecute]
  cases r with
  | error f => exact .inl ⟨f, rfl, rfl⟩
  | ok rows =>
    dsimp only
    split
    · next u hcommit => exact .inr (.inl ⟨rows, u, rfl, hcommit, rfl⟩)
    · next f u hcommit => exact .inr (.inr ⟨f, u, hcommit, rfl⟩)

theorem counts_runAlone (hi : s.handles[i]? = some h) (x : Handle) (c : Command) (cells : List Cell) :
    Counts i x (s.contents x) c cells (s.runAlone i x c cells)
      ((s.contents x).run cells c).lastId := by
  have hchanges := changes_execute_eq s x c cells
  obtain ⟨-, -, hid⟩ := changes_execute s x c cells
  rcases hexecute : s.execute x c cells with ⟨r, after⟩
  rw [hexecute] at hchanges hid
  rw [Counts]
  obtain ⟨y, hy, hkept⟩ := handle_commitHandle hi after
  obtain ⟨f, rfl, hend⟩ | ⟨rows, u, rfl, hcommit, hend⟩ | ⟨f, u, hcommit, hend⟩ :=
    runAlone_cases (i := i) hexecute
  · rw [hend, counters_setHandle hi]
    exact Prod.ext hchanges hid
  · rw [hcommit] at hy
    rw [hend, counters_of_handle hy]
    exact Prod.ext (hkept.1.trans hchanges) (hkept.2.trans hid)
  · -- the changes are given up, and with them what the command has counted
    rw [hcommit] at hy
    rw [hend, counters_setHandle hy]
    refine Prod.ext ?_ hid
    change changesOfRefused after c = _
    rw [changesOfRefused_eq]
    split
    · rfl
    · next hc => rw [hchanges, if_neg hc]

/-- Whether what a command names is there, so that it is run once it has its lock. -/
def finds (d : Contents) (c : Command) : Bool := (if c.reads then d.outline.check c else .ok []).isOk

theorem counts_runLocked (hi : s.handles[i]? = some h) {x : Handle}
    (hx : ∃ lock, x = { h with lock := lock }) (c : Command) (cells : List Cell) :
    Counts i h (s.contents h) c cells (s.runLocked i h x c cells)
      (if finds (s.contents h) c then ((s.contents h).run cells c).lastId else none) := by
  obtain ⟨lock, rfl⟩ := hx
  have hcontents : s.contents { h with lock := lock } = s.contents h := rfl
  rw [runLocked, hcontents]
  dsimp only
  split
  · next f hcheck =>
    rw [finds, hcheck]
    change Counts i h (s.contents h) c cells _ none
    refine counts_refused hi _ ?_ ?_ <;> cases h.inTransaction <;> cases c <;> rfl
  · next names hcheck =>
    rw [finds, hcheck]
    change Counts i h (s.contents h) c cells _ ((s.contents h).run cells c).lastId
    split
    · obtain ⟨-, -, hid⟩ := changes_execute s { h with lock := lock } c cells
      rw [Counts, counters_setHandle hi]
      exact Prod.ext (changes_execute_eq s { h with lock := lock } c cells) hid
    · exact counts_runAlone hi { h with lock := lock } c cells

/-- The identifier of the last row that a command adds, if it gets so far. -/
def lastIdOf (s : Store) (i : HandleId) (h : Handle) (c : Command) (cells : List Cell) : Option Int :=
  if (s.lockFor i h c).isOk && finds (s.contents h) c then ((s.contents h).run cells c).lastId else none

theorem counts_runCommand (hi : s.handles[i]? = some h) (c : Command) (cells : List Cell) :
    Counts i h (s.contents h) c cells (s.runCommand i c cells) (s.lastIdOf i h c cells) := by
  rw [runCommand, hi, lastIdOf]
  dsimp only
  cases hlock : s.lockFor i h c with
  | error f => exact counts_refused hi _ rfl rfl
  | ok x => exact counts_runLocked hi (lockFor_eq_ok hlock) c cells

/-- A command that has succeeded has got to its end. -/
theorem result_of_isOk (hi : s.handles[i]? = some h) {c : Command} {cells : List Cell}
    (hok : (s.runCommand i c cells).1.isOk = true) :
    s.lastIdOf i h c cells = ((s.contents h).run cells c).lastId ∧
      ((s.contents h).run cells c).result.isOk = true := by
  rw [runCommand, hi] at hok
  dsimp only at hok
  rw [lastIdOf]
  cases hlock : s.lockFor i h c with
  | error f =>
    rw [hlock] at hok
    cases hok
  | ok x =>
    obtain ⟨lock, rfl⟩ := lockFor_eq_ok hlock
    rw [hlock] at hok
    dsimp only at hok
    rw [runLocked, show s.contents { h with lock := lock } = s.contents h from rfl] at hok
    dsimp only at hok
    split at hok
    · cases hok
    · next names hcheck =>
      rw [finds, hcheck]
      refine ⟨rfl, ?_⟩
      have hresult := (changes_execute s { h with lock := lock } c cells).1
      split at hok
      · exact hresult ▸ hok
      · rcases hexecute : s.execute { h with lock := lock } c cells with ⟨r, after⟩
        rw [hexecute] at hresult
        obtain ⟨f, rfl, hend⟩ | ⟨rows, u, rfl, hcommit, hend⟩ | ⟨f, u, hcommit, hend⟩ :=
          runAlone_cases (i := i) hexecute
        · rw [hend] at hok
          cases hok
        · exact hresult ▸ rfl
        · rw [hend] at hok
          cases hok

/-! ### Texts -/

theorem isOk_reported {α : Type} (x : Except Failure α × Store) :
    (reported x).1.isOk = x.1.isOk := by
  rw [reported]
  cases x.1 <;> rfl

/-- What the first statement of a text is, if it can be read. -/
def commandOf? (sql : String) : Option Command :=
  match Prepared.first? sql with
  | some (.ok p) => some p.command
  | _ => none

theorem runFirst_of_command {sql : String} {c : Command} (hsql : commandOf? sql = some c)
    (cells : List Cell) : runFirst i sql cells s = s.runCommand i c cells := by
  rw [commandOf?] at hsql
  split at hsql
  · next p hfirst =>
    cases hsql
    rw [runFirst, hfirst]
  · cases hsql

/-- A text without a statement that can be read is not run. -/
theorem runFirst_of_none {sql : String} (hsql : commandOf? sql = none) (cells : List Cell) :
    ∃ f, runFirst i sql cells s = (.error f, s) := by
  rw [runFirst]
  split
  · exact ⟨_, rfl⟩
  · exact ⟨_, rfl⟩
  · next p hfirst =>
    rw [commandOf?, hfirst] at hsql
    cases hsql

theorem counters_prepareFirst (i : HandleId) (sql : String) (s : Store) :
    Engine.counters i (prepareFirst i sql s).2 = Engine.counters i s := by
  rw [prepareFirst]
  split
  · rfl
  · rfl
  · exact counters_prepareCommand i _ s

/-- How many rows a command touches when it is run for a handle. -/
def touchedBy (i : HandleId) (s : Store) (c : Command) (cells : List Cell) : Nat :=
  match s.handles[i]? with
  | some h => if (s.runCommand i c cells).1.isOk then (s.contents h).touched cells c else 0
  | none => 0

/-- The identifier of the last row that a command adds when it is run for a handle. -/
def lastAddedBy? (i : HandleId) (s : Store) (c : Command) (cells : List Cell) : Option Int :=
  (s.handles[i]?).bind fun h => s.lastIdOf i h c cells

theorem touchedBy_of_not {c : Command} (hc : c.changesRows = false) (cells : List Cell) :
    touchedBy i s c cells = 0 := by
  rw [touchedBy]
  split
  · rw [Contents.touched_of_not _ _ hc, ite_self]
  · rfl

theorem lastAddedBy?_of_not {c : Command} (hc : c.addsRows = false) (cells : List Cell) :
    lastAddedBy? i s c cells = none := by
  rw [lastAddedBy?]
  cases s.handles[i]? with
  | none => rfl
  | some h => rw [Option.bind_some, lastIdOf, Contents.lastId_run_of_not _ _ hc, ite_self]

theorem isSome_lastAddedBy? {c : Command} {cells : List Cell} (hc : c.addsRows = true)
    (hok : (s.runCommand i c cells).1.isOk = true) :
    (lastAddedBy? i s c cells).isSome = true ↔ touchedBy i s c cells ≠ 0 := by
  rw [lastAddedBy?, touchedBy]
  cases hi : s.handles[i]? with
  | none =>
    rw [runCommand, hi] at hok
    cases hok
  | some h =>
    obtain ⟨hlast, hresult⟩ := result_of_isOk hi hok
    dsimp only
    rw [Option.bind_some, hlast, if_pos hok]
    exact Contents.isSome_lastId_run hc hresult

theorem counters_runCommand (c : Command) (cells : List Cell) :
    Engine.counters i (s.runCommand i c cells).2 =
      (if c.changesRows then touchedBy i s c cells else Engine.changes i s,
        (lastAddedBy? i s c cells).getD (Engine.lastRowId i s)) := by
  rw [touchedBy, lastAddedBy?]
  cases hi : s.handles[i]? with
  | none =>
    have hcounters := counters_of_none hi
    obtain ⟨hchanges, hid⟩ := Prod.mk.inj hcounters
    have hrun : (s.runCommand i c cells).2 = s := by
      rw [runCommand, hi]
    rw [hrun, hcounters, hchanges, hid]
    exact Prod.ext (ite_self 0).symm rfl
  | some h =>
    have hcounts := counts_runCommand hi c cells
    have hchanges : Engine.changes i s = h.changes := congrArg Prod.fst (counters_of_handle hi)
    have hid : Engine.lastRowId i s = h.lastRowId := congrArg Prod.snd (counters_of_handle hi)
    rw [hchanges, hid]
    exact hcounts

/-- A store keeps the promise of an engine about its counters.  What a statement has touched is told from
the tables. -/
def counting (i : HandleId) : Counting Store i where
  statements := statementTexts
  exec_eq _ _ := rfl
  changesRows sql := (commandOf? sql).any Command.changesRows
  addsRows sql := (commandOf? sql).any Command.addsRows
  changesRows_of_addsRows sql hsql := by
    obtain ⟨c, hc, hadds⟩ := (Option.any_eq_true _ _).1 hsql
    exact (Option.any_eq_true _ _).2 ⟨c, hc, Command.changesRows_of_addsRows hadds⟩
  touched x s := ((commandOf? x.sql).map fun c => touchedBy i s c x.cells).getD 0
  lastAdded? x s := (commandOf? x.sql).bind fun c => lastAddedBy? i s c x.cells
  touched_of_not x s hx := by
    cases hsql : commandOf? x.sql with
    | none => rfl
    | some c =>
      rw [hsql] at hx
      exact touchedBy_of_not hx _
  lastAdded?_of_not x s hx := by
    cases hsql : commandOf? x.sql with
    | none => rfl
    | some c =>
      rw [hsql] at hx
      exact lastAddedBy?_of_not hx _
  isSome_lastAdded? x s hx hok := by
    obtain ⟨c, hsql, hc⟩ := (Option.any_eq_true _ _).1 hx
    have hrun : (s.runCommand i c x.cells).1.isOk = true := by
      change (reported (runFirst i x.sql x.cells s)).1.isOk = true at hok
      rwa [runFirst_of_command hsql, isOk_reported] at hok
    rw [hsql]
    exact isSome_lastAddedBy? hc hrun
  counters_run x s := by
    change Engine.counters i (runFirst i x.sql x.cells s).2 = _
    cases hsql : commandOf? x.sql with
    | none =>
      obtain ⟨f, hrun⟩ := runFirst_of_none (i := i) (s := s) hsql x.cells
      rw [hrun]
      rfl
    | some c =>
      rw [runFirst_of_command hsql]
      exact counters_runCommand c x.cells
  counters_prepare sql s := counters_prepareFirst i sql s
  counters_begin s := counters_onHandle _ fun h hi => counters_setHandle hi _
  counters_commit s := counters_onHandle _ fun h hi => counters_ending hi (counters_commitHandle hi h)
  counters_rollback s := counters_onHandle _ fun h hi => counters_ending hi (counters_setHandle hi _)
  counters_close s _ := counters_onHandle _ fun h hi => counters_setHandle hi _

end Store

end EntitySession.Sqlite
