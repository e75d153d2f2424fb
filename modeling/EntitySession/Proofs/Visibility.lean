import EntitySession.Proofs.Casts
import EntitySession.Proofs.Dirtiness
import EntitySession.Proofs.Persistence

/-!
# What was made persistent is found

An instance that was just made persistent is found by its identifier before anything was flushed, and
no statement is sent for it.  This is so on both ways: with an identifier of its own, whose insert
waits, and with one that the database has generated.

What is found is the instance that the context tracks under the key, and the first one that was put
there stays.  So it is the instance itself unless another one was tracked under its key before
(`Session.Visible.first`); then making the second one persistent changes nothing, and what is written to
it later is not seen.  `Notes.overlooked` has two notes with one number.

From then on the instance that is found is also the one that a flush looks at
(`Session.Shows.watched`), and this until its key is deleted.
-/

set_option autoImplicit false

namespace EntitySession

variable {δ : Type} {S : Schema}

/-! ## Finding what is tracked -/

/-- The identifier of an instance has the declared form already, so it leads to its key. -/
theorem Heap.key_of {h : Heap} {i : InstanceId} {k : EntityKey} (hk : h.key S i = .ok k) :
    EntityKey.of S.mappings k.entity k.id = .ok k := by
  obtain ⟨hid, htype⟩ := key_eq_ok.1 hk
  obtain ⟨x, m, u, hx, hm, -, hcast⟩ := id_eq_ok.1 hid
  rw [← typeOf_of_some hx, htype] at hm
  exact EntityKey.of_eq_ok.2 ⟨m, hm, Value.cast_cast hcast, rfl⟩

/-- What is tracked has a baseline. -/
theorem Context.Sound.baseline {h : Heap} {c : Context} {k : EntityKey} {l : InstanceId}
    (hc : c.Sound S h) (hl : c.get? k = some l) :
    ∃ columns relations, c.columns.get? k = some columns ∧ c.relations.get? k = some relations := by
  obtain ⟨e, he, hek, -⟩ := KeyMap.mem_of_get? hl
  obtain ⟨columns, relations, hcolumns, hrelations, -⟩ := (hc.entry e he).baseline
  rw [KeyMap.get?_congr _ hek] at hcolumns hrelations
  exact ⟨columns, relations, hcolumns, hrelations⟩

/-- What was put into a context is tracked with its present values, unless its key was tracked. -/
theorem Context.put_tracked {h : Heap} {c c' : Context} {i : InstanceId} (hc : c.put S h i = .ok c') :
    ∃ k l, h.key S i = .ok k ∧ k.id ≠ .null ∧ c'.get? k = some l ∧
      (c.get? k = some l ∨ c.get? k = none ∧ l = i) ∧
      (c.get? k = none → ∃ columns relations, h.columnValues S i = .ok columns ∧
        h.relationValues S i = .ok relations ∧ c'.columns.get? k = some columns ∧
          c'.relations.get? k = some relations) := by
  obtain ⟨k, hk, hn, ⟨hknown, rfl⟩ | ⟨hnew, columns, relations, hcolumns, hrelations, rfl⟩⟩ :=
    put_eq_ok hc
  · obtain ⟨l, hl⟩ := contains_iff.1 hknown
    refine ⟨k, l, hk, hn, hl, .inl hl, fun hnone => ?_⟩
    rw [hl] at hnone
    cases hnone
  · have hself {α : Type} (m : KeyMap α) (x : α) : (m.insert k x).get? k = some x := by
      rw [KeyMap.get?_insert, if_pos BEq.rfl]
    exact ⟨k, i, hk, hn, hself _ _, .inr ⟨get?_eq_none.2 hnew, rfl⟩,
      fun _ => ⟨columns, relations, hcolumns, hrelations, hself _ _, hself _ _⟩⟩

namespace Session

/-- What is tracked is found, and nothing else happens. -/
theorem findById_tracked [Database δ] {w : Work δ} {entity : String} {id : Value} {k : EntityKey}
    {l : InstanceId} (hs : Sound S w) (hopen : w.session.isOpen = true)
    (hk : EntityKey.of S.mappings entity id = .ok k) (hl : w.session.context.get? k = some l) :
    (findById S entity id).perform w = (.ok (some l), w) := by
  obtain ⟨m, -, -, rfl⟩ := EntityKey.of_eq_ok.1 hk
  have hlook : (Work.look fun s _ => .ok (s.context.get? k) : Act (Work δ) _).perform w =
      (.ok (some l), w) := by
    rw [Work.perform_look, hl]
  have hfind : (find S k.entity id).perform w = (.ok (some l), w) := by
    refine Act.perform_bind_ok.2 ⟨(), w, ensureOpen_open hopen, Act.perform_bind_ok.2 ⟨k, w, ?_, ?_⟩⟩
    · rw [Act.perform_lift, hk]
    · exact Act.perform_bind_ok.2 ⟨some l, w, hlook, rfl⟩
  refine Act.perform_bind_ok.2 ⟨some l, w, hfind, Act.perform_bind_ok.2 ⟨_, w, rfl, ?_⟩⟩
  rw [if_pos (hs.context.typeOf hl)]
  rfl

/-! ## What is visible under a key -/

/-- The instance that a session shows under a key. -/
structure Shows [Database δ] (S : Schema) (v : Work δ) (k : EntityKey) (l : InstanceId) : Prop where
  /-- It is found by its identifier, in whatever form this is given, and no statement is sent. -/
  found : ∀ id k', EntityKey.of S.mappings k.entity id = .ok k' → (k' == k) = true →
    (findById S k.entity id).perform v = (.ok (some l), v)
  /-- It is what is compared with the baseline of the key, whatever will have become of it. -/
  watched : ∃ columns relations, v.session.context.columns.get? k = some columns ∧
    v.session.context.relations.get? k = some relations ∧
      ∀ h, v.session.context.isDirty S h k = Context.differs S h l columns relations

theorem shows_of_tracked [Database δ] {w : Work δ} {k : EntityKey} {l : InstanceId} (hs : Sound S w)
    (hopen : w.session.isOpen = true) (hl : w.session.context.get? k = some l) : Shows S w k l := by
  constructor
  case found =>
    intro id k' hk' hkk
    exact findById_tracked hs hopen hk' ((Context.get?_congr hkk).trans hl)
  case watched =>
    obtain ⟨columns, relations, hcolumns, hrelations⟩ := hs.context.baseline hl
    refine ⟨columns, relations, hcolumns, hrelations, fun h => ?_⟩
    rw [Context.isDirty_of_get? hl, Context.differsFor, hcolumns, hrelations]
    rfl

variable [Database δ] [Callbacks δ]

/-- What making an instance persistent leads to: its key, and the instance that is tracked under it. -/
structure Visible (S : Schema) (w v : Work δ) (i : InstanceId) (k : EntityKey) (l : InstanceId) :
    Prop where
  key : v.site.heap.key S i = .ok k
  id_ne_null : k.id ≠ .null
  /-- It is the instance itself, unless another one was tracked under the key. -/
  first : w.session.context.get? k = some l ∨ w.session.context.get? k = none ∧ l = i
  /-- An instance that is tracked from now on will be compared with what it is at present. -/
  baseline : w.session.context.get? k = none →
    ∃ columns relations, v.site.heap.columnValues S i = .ok columns ∧
      v.site.heap.relationValues S i = .ok relations ∧
        v.session.context.columns.get? k = some columns ∧
          v.session.context.relations.get? k = some relations
  /-- Looked for by the identifier that the instance has, it is found, and nothing else happens. -/
  found : (findById S k.entity k.id).perform v = (.ok (some l), v)
  /-- It is shown at once, and until the key is deleted or the session is closed. -/
  shown : ∀ trace u, Run (Step S) v trace u → (∀ x ∈ trace, ¬Deletes S k x) →
    u.session.isOpen = true → Shows S u k l

/-- What was just made persistent is found by its identifier without a statement, and is what a flush
will look at; it is the instance itself, unless another one was tracked under its key before. -/
theorem Reachable.persisted_visible {w v : Work δ} {i : InstanceId} (hw : Reachable S w)
    (h : (persist S i).perform w = (.ok (), v)) : ∃ k l, Visible S w v i k l := by
  obtain ⟨hopen, hregisters⟩ := persist_ok h
  have hv : Sound S v := by
    have hkept := (persist_change (S := S) i w).invariant (fun _ _ hstep hs => Sound.change hs hstep)
      hw.sound
    rwa [h] at hkept
  have hfound {k : EntityKey} {l : InstanceId} (hvopen : v.session.isOpen = true)
      (hk : v.site.heap.key S i = .ok k) (hl : v.session.context.get? k = some l) :
      (findById S k.entity k.id).perform v = (.ok (some l), v) :=
    findById_tracked hv hvopen (Heap.key_of hk) hl
  have hshown {k : EntityKey} {l : InstanceId} (hl : v.session.context.get? k = some l)
      (trace : List (Moment δ)) (u : Work δ) (hrun : Run (Step S) v trace u)
      (hd : ∀ x ∈ trace, ¬Deletes S k x) (hu : u.session.isOpen = true) : Shows S u k l :=
    shows_of_tracked (hrun.invariant (P := Sound S) (fun _ _ hstep hs => hs.step hstep) hv) hu
      (run_tracked hrun hd hu hl)
  cases hregisters with
  | generated hid hsave hput =>
    obtain ⟨k, l, hk, hn, hl, hfirst, hbaseline⟩ := Context.put_tracked hput
    exact ⟨k, l, hk, hn, hfirst, hbaseline, hfound hopen hk hl, hshown hl⟩
  | @known k hk hn hc =>
    obtain ⟨l, hl⟩ := Context.contains_iff.1 hc
    refine ⟨k, l, hk, hn, .inl hl, fun hnone => ?_, hfound hopen hk hl, hshown hl⟩
    rw [hl] at hnone
    cases hnone
  | waiting hk hn hc hput =>
    obtain ⟨k, l, hk, hn, hl, hfirst, hbaseline⟩ := Context.put_tracked hput
    exact ⟨k, l, hk, hn, hfirst, hbaseline, hfound hopen hk hl, hshown hl⟩

end Session

/-! ## Notes that are looked for -/

namespace Notes

/-- The third note has no number yet, and the database generates the seventh. -/
def unnumbered : Work (Recorded Rehearsal.Scene) :=
  let connection := { Rehearsal.ScriptedConnection.start "notes" with keys := [.bigInt 7] }
  let scene := { Rehearsal.Scene.empty with connections := #[.scripted connection] }
  let heap := site.heap.setRecord 2 ⟨[("id", .null), ("text", .text "c")], []⟩
  ⟨{ site with heap := heap, outside := ⟨scene, []⟩ }, .start ⟨0, false⟩ (.session 0)⟩

/-- Which note is found under a number. -/
def lookUp (n : Int64) (w : Work (Recorded Rehearsal.Scene)) : Option (Option InstanceId) :=
  ((Session.findById schema "Note" (.bigInt n)).perform w).1.toOption

theorem persist_of_isOk {w : Work (Recorded Rehearsal.Scene)} {i : InstanceId}
    (h : ((Session.persist schema i).perform w).1.isOk = true) :
    (Session.persist schema i).perform w = (.ok (), ((Session.persist schema i).perform w).2) := by
  obtain ⟨u, hu⟩ := exists_of_isOk h
  exact Prod.ext hu rfl

/-- A note with a number is found before it is inserted, and one without is found under the number that
it was given. -/
theorem visible_numbered :
    (∃ v k l, Session.Visible schema opened v 0 k l ∧ lookUp 1 v = some (some 0)) ∧
      ∃ v k l, Session.Visible schema unnumbered v 2 k l ∧ lookUp 7 v = some (some 2) := by
  constructor
  · have hpersist := persist_of_isOk (w := opened) (i := 0) (by decide +kernel)
    obtain ⟨k, l, hvisible⟩ := Session.Reachable.persisted_visible
      (Session.reachable_start schema site ⟨0, false⟩ (.session 0)) hpersist
    exact ⟨_, k, l, hvisible, by decide +kernel⟩
  · have hpersist := persist_of_isOk (w := unnumbered) (i := 2) (by decide +kernel)
    obtain ⟨k, l, hvisible⟩ := Session.Reachable.persisted_visible
      (Session.reachable_start schema unnumbered.site ⟨0, false⟩ (.session 0)) hpersist
    exact ⟨_, k, l, hvisible, by decide +kernel⟩

/-- The second note has the number of the first, which is tracked. -/
def twins : Work (Recorded Rehearsal.Scene) :=
  let w := after (.persist 0) opened
  { w with site := { w.site with heap := w.site.heap.setRecord 1 (record 1 "b") } }

/-- To make a second note with the same number persistent succeeds, but the first one is found; and a
change of the second is not seen. -/
theorem overlooked : ∃ w v, Session.Reachable schema w ∧ w.session.isOpen = true ∧
    (Session.persist schema 1).perform w = (.ok (), v) ∧
      v.site.heap.id schema 1 = .ok (.bigInt 1) ∧ lookUp 1 v = some (some 0) ∧
        v.session.context.isDirty schema (v.site.heap.setRecord 1 (record 1 "new")) (key 1) =
          .ok false := by
  have htwins : Session.Reachable schema twins :=
    ((Session.reachable_start schema site ⟨0, false⟩ (.session 0)).call (.persist 0)).elsewhere
      (Heap.setRecord_keepsTypes _ _ _)
  refine ⟨twins, _, htwins, by decide +kernel, persist_of_isOk (by decide +kernel), ?_,
    by decide +kernel, ?_⟩
  · exact ok_of_toOption (by decide +kernel)
  · exact ok_of_toOption (by decide +kernel)

end Notes

end EntitySession
