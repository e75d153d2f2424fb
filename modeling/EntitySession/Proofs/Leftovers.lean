import EntitySession.Proofs.Exactness

/-!
# What a failed call leaves waiting

A delete reads what it needs before it queues anything, so a delete that fails has changed nothing
(`Session.delete_error`).  Two other calls queue first and read after that, and what they have queued
stays when the reading fails.

* A flush queues an update of each dirty entry in turn, and reads the columns of the next one only then.
  The scan before it does not make this safe: it stops at the first difference that it finds, so it may
  call an instance dirty without having looked at its references (`Context.Stalls`).
  `Session.Reachable.flush_unscheduled` says what is left: nothing was sent, and the queue is what it was
  unless an entry stalls; then the updates of the entries before it wait, with the values of that moment.
* Making an instance persistent queues the insert, and then takes down the values that are to be its
  baseline.  `Session.persist_orphaned`: if these cannot be read, the insert waits although the instance
  is not tracked, and the next attempt queues another one.

Neither call has changed what is tracked or a baseline.  What the leftovers do later is shown by two runs,
`Pets.outdated` and `Pets.inserted_twice`.
-/

set_option autoImplicit false

namespace EntitySession

variable {δ : Type} {S : Schema}

/-! ## Looking for changes -/

namespace Context

variable {h : Heap} {c : Context} {x : EntityKey × InstanceId} {e : Error}

/-- An entry whose simple columns have changed, which is enough to call it dirty, and whose references
cannot be read, which nobody has tried. -/
structure Stalls (S : Schema) (h : Heap) (c : Context) (x : EntityKey × InstanceId) (e : Error) :
    Prop where
  changed : ∃ columns, h.columnValues S x.2 = .ok columns ∧
    (columns != (c.columns.get? x.1).getD []) = true
  references : h.relationValues S x.2 = .error e

/-- A dirty entry whose columns cannot be read stalls. -/
theorem stalls_of_dirty (hdirty : c.differsFor S h x = .ok true)
    (he : Session.updateColumns S h x.2 = .error e) : Stalls S h c x e := by
  obtain ⟨current, hcurrent, hdirty⟩ := bind_eq_ok.1 hdirty
  have hreferences : h.relationValues S x.2 = .error e := by
    rcases bind_eq_error.1 he with he | ⟨_, -, he⟩
    · rw [hcurrent] at he
      cases he
    · rcases bind_eq_error.1 he with he | ⟨_, -, he⟩
      · exact he
      · cases he
  refine ⟨⟨current, hcurrent, ?_⟩, hreferences⟩
  -- had the simple columns been the same, the scan would have read the references as well
  by_contra hsame
  rw [if_neg hsame] at hdirty
  obtain ⟨m, -, hdirty⟩ := bind_eq_ok.1 hdirty
  split at hdirty
  · obtain ⟨_, hrelations, -⟩ := bind_eq_ok.1 hdirty
    rw [hreferences] at hrelations
    cases hrelations
  · cases hdirty

end Context

namespace Session

variable {w v : Work δ} {e : Error}

theorem dirtyEntities_error (h : (dirtyEntities S).perform w = (.error e, v)) :
    ∃ tracked choices, tracked.Perm w.session.context.instances ∧
      w.session.context.dirtyAmong S w.site.heap tracked = .error e ∧
        v = { w with session := { w.session with choices } } := by
  rcases Act.perform_bind_error.1 h with h | ⟨_, u, hu, h⟩
  · cases h
  cases hu
  rcases Act.perform_bind_error.1 h with h | ⟨_, u, hu, h⟩
  · cases h
  cases hu
  obtain ⟨hscan, rfl⟩ := Prod.mk.inj h
  exact ⟨_, _, Choices.shuffle_perm .., hscan, rfl⟩

/-- The updates of the entries before the one whose columns cannot be read are queued. -/
theorem enqueueUpdates_error {dirty : List (EntityKey × InstanceId)}
    (h : (enqueueUpdates S dirty).perform w = (.error e, v)) :
    ∃ first x rest updates, dirty = first ++ x :: rest ∧
      List.Forall₂ (Action.IsUpdateOf S w) first updates ∧
      updateColumns S w.site.heap x.2 = .error e ∧
        v = { w with session := { w.session with
          queue := ⟨w.session.queue.pending ++ updates⟩ } } := by
  induction dirty generalizing w with
  | nil => cases h
  | cons x rest ih =>
    rcases Act.perform_bind_error.1 h with h | ⟨columns, u, hu, h⟩
    · obtain ⟨hcolumns, rfl⟩ := Prod.mk.inj h
      exact ⟨[], x, rest, [], rfl, .nil, hcolumns, by rw [List.append_nil]⟩
    obtain ⟨hcolumns, rfl⟩ := Prod.mk.inj hu
    rcases Act.perform_bind_error.1 h with h | ⟨_, u, hu, h⟩
    · cases h
    cases hu
    obtain ⟨first, y, rest, updates, rfl, hupdates, hy, rfl⟩ := ih h
    refine ⟨x :: first, y, rest, .update w.session.gateway x.1 columns :: updates, rfl,
      .cons ⟨columns, hcolumns, rfl⟩ hupdates, hy, ?_⟩
    simp only [Queue.push, List.append_assoc, List.singleton_append]

/-- A search for changes fails where an entry cannot be compared with its baseline, and then nothing is
queued, or where the columns of a dirty entry cannot be read. -/
theorem scheduleUpdates_error (h : (scheduleUpdates S).perform w = (.error e, v)) :
    ∃ tracked choices, tracked.Perm w.session.context.instances ∧
      (w.session.context.dirtyAmong S w.site.heap tracked = .error e ∧
          v = { w with session := { w.session with choices } } ∨
        ∃ first x rest updates,
          w.session.context.dirtyAmong S w.site.heap tracked = .ok (first ++ x :: rest) ∧
          List.Forall₂ (Action.IsUpdateOf S w) first updates ∧
          updateColumns S w.site.heap x.2 = .error e ∧
            v = { w with session := { w.session with
              choices, queue := ⟨w.session.queue.pending ++ updates⟩ } }) := by
  rcases Act.perform_bind_error.1 h with h | ⟨dirty, u, hu, h⟩
  · obtain ⟨tracked, choices, htracked, hscan, rfl⟩ := dirtyEntities_error h
    exact ⟨tracked, choices, htracked, .inl ⟨hscan, rfl⟩⟩
  obtain ⟨tracked, choices, htracked, hdirty, rfl⟩ := dirtyEntities_ok hu
  rcases Act.perform_bind_error.1 h with h | ⟨_, u, -, h⟩
  · obtain ⟨first, x, rest, updates, rfl, hupdates, hx, rfl⟩ := enqueueUpdates_error h
    exact ⟨tracked, choices, htracked, .inr ⟨first, x, rest, updates, hdirty, hupdates, hx, rfl⟩⟩
  · cases h

/-- What a flush leaves that could not find out what to update: it went no further. -/
structure Unscheduled [Database δ] [Callbacks δ] (S : Schema) (w v : Work δ) (e : Error) : Prop where
  flush : (flush S).perform w = (.error e, v)
  /-- Nothing was sent. -/
  site : v.site = w.site
  context : v.session.context = w.session.context
  /-- Unless an entry stalls, the queue is what it was. -/
  queue : (∀ x ∈ w.session.context.instances, ¬w.session.context.Stalls S w.site.heap x e) →
    v.session.queue = w.session.queue
  /-- In any case nothing was added to it but updates of entries that were found before the one that
  stalls. -/
  left : v.session.queue = w.session.queue ∨ ∃ first x rest updates,
    (first ++ x :: rest).Perm (w.session.context.dirtyEntries S w.site.heap) ∧
    List.Forall₂ (Action.IsUpdateOf S w) first updates ∧
    w.session.context.Stalls S w.site.heap x e ∧
    v.session.queue = ⟨w.session.queue.pending ++ updates⟩

/-- A flush whose search for changes fails sends nothing, and adds nothing to the queue unless an entry
stalls. -/
theorem Reachable.flush_unscheduled [Database δ] [Callbacks δ] (hw : Reachable S w)
    (hopen : w.session.isOpen = true) (h : (scheduleUpdates S).perform w = (.error e, v)) :
    Unscheduled S w v e := by
  have hflush : (flush S).perform w = (.error e, v) :=
    (Act.perform_bind_of_ok (ensureOpen_open hopen) _).trans (Act.perform_bind_of_error h _)
  obtain ⟨tracked, choices, htracked, ⟨-, rfl⟩ | ⟨first, x, rest, updates, hdirty, hupdates, hx, rfl⟩⟩ :=
    scheduleUpdates_error h
  · exact ⟨hflush, rfl, rfl, fun _ => rfl, .inl rfl⟩
  · obtain ⟨hentries, -⟩ := hw.sound.context.dirtyAmong_perm htracked hdirty
    obtain ⟨hmem, hdiffers⟩ := hw.sound.context.mem_dirtyEntries.1
      (hentries.mem_iff.1 (List.mem_append_right first List.mem_cons_self))
    have hstalls := Context.stalls_of_dirty hdiffers hx
    exact ⟨hflush, rfl, rfl, fun hnone => absurd hstalls (hnone x hmem),
      .inr ⟨first, x, rest, updates, hentries, hupdates, hstalls, rfl⟩⟩

end Session

/-! ### A flush that stalls -/

namespace Pets

/-- What an owner holds. -/
def ownerRecord (id : Value) : Record := ⟨[("id", id), ("name", .text "Ann")], []⟩

/-- Two pets, the second of which has an owner with the number given, and a session to which nothing was
given yet. -/
def kennel (owner : Value) : Work (Recorded Rehearsal.Scene) :=
  let heap := (Heap.empty.add "Pet" (petRecord 1 "Rex" .empty)).2
  let heap := (heap.add "Pet" (petRecord 2 "Max" (.loaded 2))).2
  let heap := (heap.add "Owner" (ownerRecord owner)).2
  let scene := { Rehearsal.Scene.empty with connections := #[.scripted (.start "pets")] }
  { site := { heap, outside := ⟨scene, []⟩, log := [] }
    session := .start ⟨0, false⟩ (.session 0) }

/-- What becomes of a session that is called for something. -/
def after (c : Session.Call) (w : Work (Recorded Rehearsal.Scene)) : Work (Recorded Rehearsal.Scene) :=
  ((c.act schema).perform w).2

/-- The program replaces what an instance holds. -/
def hold (i : InstanceId) (record : Record) (w : Work (Recorded Rehearsal.Scene)) :
    Work (Recorded Rehearsal.Scene) :=
  { w with site := { w.site with heap := w.site.heap.setRecord i record } }

/-- The values of the statements that were sent. -/
def sent (w : Work (Recorded Rehearsal.Scene)) : List (List Value) :=
  w.site.outside.exchanges.map fun
    | .query _ _ values _ | .execute _ _ values _ | .insert _ _ values _ => values

theorem reachable_kennel (owner : Value) : Session.Reachable schema (kennel owner) :=
  Session.reachable_start ..

theorem reachable_hold {w : Work (Recorded Rehearsal.Scene)} (hw : Session.Reachable schema w)
    (i : InstanceId) (record : Record) : Session.Reachable schema (hold i record w) :=
  hw.elsewhere (Heap.setRecord_keepsTypes _ i record)

/-- The pets are in the database. -/
def stored : Work (Recorded Rehearsal.Scene) :=
  after .flush (after (.persist 0) (after (.persist 1) (kennel (.bigInt 7))))

/-- The first pet gets another name, and the number of the owner becomes a text. -/
def misnumbered : Work (Recorded Rehearsal.Scene) :=
  hold 2 (ownerRecord (.text "x")) (hold 0 (petRecord 1 "Tom" .empty) stored)

/-- The second pet, whose owner it is, gets another name as well. -/
def bothRenamed : Work (Recorded Rehearsal.Scene) :=
  hold 1 (petRecord 2 "Tam" (.loaded 2)) misnumbered

theorem reachable_misnumbered : Session.Reachable schema misnumbered := by
  have hstored : Session.Reachable schema stored :=
    (((reachable_kennel (.bigInt 7)).call (.persist 1)).call (.persist 0)).call .flush
  exact reachable_hold (reachable_hold hstored _ _) _ _

theorem reachable_bothRenamed : Session.Reachable schema bothRenamed :=
  reachable_hold reachable_misnumbered _ _

/-- What is left of a search for changes. -/
def scheduled (w : Work (Recorded Rehearsal.Scene)) : Work (Recorded Rehearsal.Scene) :=
  ((Session.scheduleUpdates schema).perform w).2

theorem scheduleUpdates_fails {w : Work (Recorded Rehearsal.Scene)}
    (h : ((Session.scheduleUpdates schema).perform w).1.isOk = false) :
    ∃ e, (Session.scheduleUpdates schema).perform w = (.error e, scheduled w) := by
  obtain ⟨e, he⟩ := exists_of_not_isOk h
  exact ⟨e, Prod.ext he rfl⟩

/-- If only the first pet has another name, the scan fails, and nothing is left; if the second has one,
too, it stalls, and an update of the first is left. -/
theorem unscheduled_pets :
    (∃ e, Session.Unscheduled schema misnumbered (scheduled misnumbered) e) ∧
      (scheduled misnumbered).session.queue.size = 0 ∧
    (∃ e, Session.Unscheduled schema bothRenamed (scheduled bothRenamed) e) ∧
      (scheduled bothRenamed).session.queue.size = 1 := by
  obtain ⟨e, hscan⟩ := scheduleUpdates_fails (w := misnumbered) (by decide +kernel)
  obtain ⟨e', hstall⟩ := scheduleUpdates_fails (w := bothRenamed) (by decide +kernel)
  refine ⟨⟨e, ?_⟩, by decide +kernel, ⟨e', ?_⟩, by decide +kernel⟩
  · exact Session.Reachable.flush_unscheduled reachable_misnumbered (by decide +kernel) hscan
  · exact Session.Reachable.flush_unscheduled reachable_bothRenamed (by decide +kernel) hstall

/-- The owner has its number again, the first pet gets a third name, and of equally urgent actions the
session will prefer the second. -/
def renumbered : Work (Recorded Rehearsal.Scene) :=
  let w := hold 2 (ownerRecord (.bigInt 7)) (hold 0 (petRecord 1 "Kim" .empty) (after .flush bothRenamed))
  { w with session := { w.session with choices := ⟨fun _ => 1, 0⟩ } }

/-- A flush fails because it cannot read the owner, and the update that it has queued waits for the next
one.  This sends it after the new update of the same pet: the database has the older name, the pet the
newer one, and nothing is dirty. -/
theorem outdated :
    Session.Reachable schema bothRenamed ∧ bothRenamed.session.isOpen = true ∧
      bothRenamed.session.queue.size = 0 ∧
      (∃ e, (Session.scheduleUpdates schema).perform bothRenamed = (.error e, scheduled bothRenamed)) ∧
      (after .flush bothRenamed).session.queue.size = 1 ∧
    Session.Reachable schema renumbered ∧
      ((Session.flush schema).perform renumbered).1.isOk = true ∧
      sent (after .flush renumbered) = sent renumbered ++ [[.text "Tam", .bigInt 7, .bigInt 2],
        [.text "Kim", .null, .bigInt 1], [.text "Tom", .null, .bigInt 1]] ∧
      ((after .flush renumbered).session.context.isDirty schema (after .flush renumbered).site.heap
        ⟨"Pet", .bigInt 1⟩).toOption = some false := by
  refine ⟨reachable_bothRenamed, ?_, ?_, scheduleUpdates_fails ?_, ?_, ?reachable, ?_, ?_, ?_⟩
  case reachable =>
    have hheld := reachable_hold (reachable_hold (reachable_bothRenamed.call .flush) 0
      (petRecord 1 "Kim" .empty)) 2 (ownerRecord (.bigInt 7))
    exact hheld.step (.elsewhere _ _ _ (.refl _))
  all_goals decide +kernel

end Pets

/-! ## Making an instance persistent -/

namespace Session

variable {w v : Work δ} {e : Error}

/-- What is left of an instance that has a key and could not be tracked under it. -/
structure Orphaned [Database δ] (S : Schema) (w v : Work δ) (i : InstanceId) (e : Error)
    (k : EntityKey) : Prop where
  key : w.site.heap.key S i = .ok k
  untracked : w.session.context.get? k = none
  /-- The first value that cannot be read is the reason. -/
  unreadable : w.site.heap.columnValues S i = .error e ∨
    ∃ columns, w.site.heap.columnValues S i = .ok columns ∧ w.site.heap.relationValues S i = .error e
  /-- Its insert waits; besides that nothing has changed. -/
  queued : v = { w with session := { w.session with
    queue := w.session.queue.push (.insert w.session.gateway k.entity i) } }
  /-- Once it can be read, making it persistent queues the insert a second time. -/
  again : ∀ site : Site δ, site.heap.key S i = .ok k → site.heap.Readable S i →
    ∃ u, (persist S i).perform { v with site := site } = (.ok (), u) ∧
      u.session.queue.pending = w.session.queue.pending ++
        [.insert w.session.gateway k.entity i, .insert w.session.gateway k.entity i]

theorem put_error {h : Heap} {c : Context} {i : InstanceId} {k : EntityKey}
    (hk : h.key S i = .ok k) (hn : k.id ≠ .null) (hc : c.contains k = false)
    (hput : c.put S h i = .error e) : h.columnValues S i = .error e ∨
      ∃ columns, h.columnValues S i = .ok columns ∧ h.relationValues S i = .error e := by
  rcases bind_eq_error.1 hput with hput | ⟨j, hj, hput⟩
  · rw [hk] at hput
    cases hput
  rw [hk, Except.ok.injEq] at hj
  subst hj
  rw [if_neg fun hnull => hn ((Value.isNull_iff _).1 hnull), if_neg (Bool.eq_false_iff.1 hc)] at hput
  rcases bind_eq_error.1 hput with hput | ⟨columns, hcolumns, hput⟩
  · exact .inl hput
  rcases bind_eq_error.1 hput with hput | ⟨relations, -, hput⟩
  · exact .inr ⟨columns, hcolumns, hput⟩
  · cases hput

/-- An instance that can be read and has a key of its own is made persistent. -/
theorem persist_of_readable [Database δ] {i : InstanceId} {k : EntityKey}
    (hopen : w.session.isOpen = true) (hk : w.site.heap.key S i = .ok k) (hn : k.id ≠ .null)
    (hc : w.session.context.contains k = false) (hread : w.site.heap.Readable S i) :
    ∃ u, (persist S i).perform w = (.ok (), u) ∧
      u.session.queue = w.session.queue.push (.insert w.session.gateway k.entity i) := by
  obtain ⟨hid, htype⟩ := Heap.key_eq_ok.1 hk
  rcases h : (persist S i).perform w with ⟨r, u⟩
  cases r with
  | ok =>
    refine ⟨u, rfl, ?_⟩
    cases (persist_ok h).2 with
    | generated hnull =>
      rw [hid, Except.ok.injEq] at hnull
      exact absurd hnull hn
    | known hj _ hknown =>
      rw [hk, Except.ok.injEq] at hj
      subst hj
      rw [hc] at hknown
      cases hknown
    | waiting hj =>
      rw [hk, Except.ok.injEq] at hj
      subst hj
      rfl
  | error e =>
    obtain ⟨⟨columns, hcolumns⟩, relations, hrelations⟩ := Heap.readable_iff.1 hread
    replace h := persist_rejects h
    cases h with
    | refused h =>
      rcases h with h | h
      · rw [hopen] at h
        cases h
      · rw [hid] at h
        cases h
    | generated hnull =>
      rw [hid, Except.ok.injEq] at hnull
      exact absurd hnull hn
    | waiting hj hn hc hput =>
      rcases put_error hj hn hc hput with h | ⟨_, -, h⟩
      · rw [hcolumns] at h
        cases h
      · rw [hrelations] at h
        cases h

/-- If an instance that does not lack an identifier cannot be made persistent, then its identifier cannot
be read, and nothing has changed; or its other values cannot be read, and its insert waits. -/
theorem persist_orphaned [Database δ] {i : InstanceId} (hopen : w.session.isOpen = true)
    (hid : w.site.heap.id S i ≠ .ok .null) (h : (persist S i).perform w = (.error e, v)) :
    w.site.heap.id S i = .error e ∧ v = w ∨ ∃ k, Orphaned S w v i e k := by
  replace h := persist_rejects h
  cases h with
  | refused h =>
    rcases h with h | h
    · rw [hopen] at h
      cases h
    · exact .inl ⟨h, rfl⟩
  | generated hnull => exact absurd hnull hid
  | @waiting k hk hn hc hput =>
    refine .inr ⟨k, hk, Context.get?_eq_none.2 hc, put_error hk hn hc hput, rfl,
      fun site hk' hread => ?_⟩
    obtain ⟨u, hu, hqueue⟩ := persist_of_readable (w := ⟨site, { w.session with
      queue := w.session.queue.push (.insert w.session.gateway k.entity i) }⟩) hopen hk' hn hc hread
    refine ⟨u, hu, ?_⟩
    rw [hqueue]
    simp [Queue.push]

end Session

/-! ### A pet that is inserted twice -/

namespace Pets

/-- The second pet cannot be made persistent, as the number of its owner is a text. -/
def refused : Work (Recorded Rehearsal.Scene) := after (.persist 1) (kennel (.text "x"))

theorem persist_fails :
    ∃ e, (Session.persist schema 1).perform (kennel (.text "x")) = (.error e, refused) := by
  obtain ⟨e, he⟩ := exists_of_not_isOk
    (x := ((Session.persist schema 1).perform (kennel (.text "x"))).1) (by decide +kernel)
  refine ⟨e, Prod.ext he ?_⟩
  rw [refused, after, Session.Call.act, Act.perform_map]

/-- The insert of the pet waits. -/
theorem orphaned_max :
    ∃ e k, Session.Orphaned schema (kennel (.text "x")) refused 1 e k := by
  have hid : (kennel (.text "x")).site.heap.id schema 1 = .ok (.bigInt 2) :=
    ok_of_toOption (by decide +kernel)
  obtain ⟨e, he⟩ := persist_fails
  rcases Session.persist_orphaned (by decide +kernel) (by rw [hid]; simp) he with ⟨h, -⟩ | ⟨k, h⟩
  · rw [hid] at h
    cases h
  · exact ⟨e, k, h⟩

/-- The owner has a number, and the pet is made persistent again. -/
def retried : Work (Recorded Rehearsal.Scene) :=
  after (.persist 1) (hold 2 (ownerRecord (.bigInt 7)) refused)

/-- A pet could not be made persistent, and its owner is repaired.  Made persistent again, the pet is
inserted twice. -/
theorem inserted_twice :
    Session.Reachable schema (kennel (.text "x")) ∧ (kennel (.text "x")).session.isOpen = true ∧
      ((kennel (.text "x")).site.heap.id schema 1).toOption = some (.bigInt 2) ∧
      (∃ e, (Session.persist schema 1).perform (kennel (.text "x")) = (.error e, refused)) ∧
      (kennel (.text "x")).session.queue.size = 0 ∧ refused.session.queue.size = 1 ∧
    Session.Reachable schema retried ∧
      ((Session.persist schema 1).perform (hold 2 (ownerRecord (.bigInt 7)) refused)).1.isOk = true ∧
      ((Session.flush schema).perform retried).1.isOk = true ∧
      sent (after .flush retried) =
        [[.bigInt 2, .text "Max", .bigInt 7], [.bigInt 2, .text "Max", .bigInt 7]] := by
  refine ⟨reachable_kennel _, ?_, ?_, persist_fails, ?_, ?_, ?reachable, ?_, ?_, ?_⟩
  case reachable =>
    exact (reachable_hold ((reachable_kennel _).call (.persist 1)) _ _).call (.persist 1)
  all_goals decide +kernel

end Pets

end EntitySession
