import EntitySession.Proofs.Queue
import EntitySession.Proofs.Tracking

/-!
# What the calls of a session leave

Which instance is tracked under a key is settled when it is tracked first.  From then on every call
leaves it there, whether it succeeds or fails, until the key is deleted or the session is closed:
`Session.step_tracked` says so of one step and `Session.run_tracked` of a whole run.

On the way it is said of each call what it leaves: deleting changes nothing if it fails
(`Session.delete_error`), and flushing only queues updates or leaves nothing waiting
(`Session.flush_queues_or_emptied`).
-/

set_option autoImplicit false

namespace EntitySession

variable {δ : Type} {S : Schema}

namespace Session

/-- A moment of a session. -/
abbrev Moment (δ : Type) : Type := EntitySession.Moment (Work δ) Event

/-- An instance with a key was made persistent. -/
def Persists (S : Schema) (k : EntityKey) (x : Moment δ) : Prop :=
  ∃ i r j, x.event = .call (.persist i) (.ok r) ∧ x.before.site.heap.key S i = .ok j ∧ (j == k) = true

/-- A key was deleted. -/
def Deletes (S : Schema) (k : EntityKey) (x : Moment δ) : Prop :=
  ∃ i r j, x.event = .call (.delete i) (.ok r) ∧ x.before.site.heap.key S i = .ok j ∧ (j == k) = true

/-- Nobody elsewhere changed an identifier of an instance that the session tracks. -/
def LeavesIds (S : Schema) (x : Moment δ) : Prop :=
  x.event = .elsewhere → ∀ e ∈ x.before.session.context.instances, ∀ v,
    x.before.site.heap.id S e.2 = .ok v → x.after.site.heap.id S e.2 = .ok v

/-! ## Persisting and deleting -/

section Calls

variable {w v : Work δ} {k : EntityKey}

/-- A delete that fails changes nothing. -/
theorem delete_error {i : InstanceId} {e : Error} (h : (delete S i).perform w = (.error e, v)) :
    w = v := by
  rcases Act.perform_bind_error.1 h with h | ⟨_, u, hu, h⟩
  · exact (Prod.mk.inj h).2
  obtain ⟨-, rfl⟩ := ensureOpen_ok hu
  rcases Act.perform_bind_error.1 h with h | ⟨j, u, hu, h⟩
  · exact (Prod.mk.inj h).2
  obtain ⟨-, rfl⟩ := Prod.mk.inj hu
  split at h
  · exact (Prod.mk.inj h).2
  · rcases Act.perform_bind_error.1 h with h | ⟨_, u, -, h⟩
    · cases h
    · cases h

theorem delete_ok {i : InstanceId} (h : (delete S i).perform w = (.ok (), v)) :
    ∃ j, w.site.heap.key S i = .ok j ∧ j.id ≠ .null ∧ v = { w with session := { w.session with
      queue := w.session.queue.push (.delete w.session.gateway j)
      context := w.session.context.remove j } } := by
  obtain ⟨_, u, hu, h⟩ := Act.perform_bind_ok.1 h
  obtain ⟨-, rfl⟩ := ensureOpen_ok hu
  obtain ⟨j, u, hu, h⟩ := Act.perform_bind_ok.1 h
  obtain ⟨hj, rfl⟩ := Prod.mk.inj hu
  split at h
  · cases h
  · next hnull =>
    obtain ⟨_, u, hu, h⟩ := Act.perform_bind_ok.1 h
    cases hu
    cases h
    exact ⟨j, hj, fun hn => hnull ((Value.isNull_iff _).2 hn), rfl⟩

/-- A delete leaves the other keys alone. -/
theorem delete_get? {i : InstanceId} {r : Except Error Unit} (h : (delete S i).perform w = (r, v))
    (hd : ∀ u j, r = .ok u → w.site.heap.key S i = .ok j → (j == k) = false) :
    v.session.context.get? k = w.session.context.get? k := by
  cases r with
  | error e => rw [delete_error h]
  | ok u =>
    obtain ⟨j, hj, -, rfl⟩ := delete_ok h
    refine (Context.get?_remove ..).trans (if_neg ?_)
    rw [hd u j rfl hj]
    exact Bool.false_ne_true

/-- What has become of a session that has made an instance persistent. -/
inductive Registers [Database δ] (S : Schema) (w : Work δ) (i : InstanceId) : Work δ → Prop
  /-- The row was inserted at once, and the database has generated the identifier. -/
  | generated {t : Site δ} {c : Context} (hid : w.site.heap.id S i = .ok .null)
      (hsave : (w.session.gateway.save S i).perform w.site = (.ok (), t))
      (hput : w.session.context.put S t.heap i = .ok c) :
      Registers S w i ⟨t, { w.session with context := c }⟩
  /-- The key was tracked already. -/
  | known {j : EntityKey} (hj : w.site.heap.key S i = .ok j) (hn : j.id ≠ .null)
      (hc : w.session.context.contains j = true) : Registers S w i w
  /-- The insert waits. -/
  | waiting {j : EntityKey} {c : Context} (hj : w.site.heap.key S i = .ok j) (hn : j.id ≠ .null)
      (hc : w.session.context.contains j = false)
      (hput : w.session.context.put S w.site.heap i = .ok c) :
      Registers S w i { w with session := { w.session with
        queue := w.session.queue.push (.insert w.session.gateway j.entity i), context := c } }

theorem persist_ok [Database δ] {i : InstanceId} (h : (persist S i).perform w = (.ok (), v)) :
    w.session.isOpen = true ∧ Registers S w i v := by
  obtain ⟨_, u, hu, h⟩ := Act.perform_bind_ok.1 h
  obtain ⟨hopen, rfl⟩ := ensureOpen_ok hu
  refine ⟨hopen, ?_⟩
  obtain ⟨id, u, hu, h⟩ := Act.perform_bind_ok.1 h
  obtain ⟨hid, rfl⟩ := Prod.mk.inj hu
  obtain ⟨s, u, hu, h⟩ := Act.perform_bind_ok.1 h
  cases hu
  split at h
  · next hnull =>
    obtain ⟨_, u, hu, h⟩ := Act.perform_bind_ok.1 h
    obtain ⟨t, ht, rfl⟩ := Work.perform_onSite_ok.1 hu
    obtain ⟨c, hc, rfl⟩ := Work.perform_modifyContext_ok.1 h
    exact .generated ((Value.isNull_iff id).1 hnull ▸ hid) ht hc
  · next hnull =>
    have hn : id ≠ .null := fun hn => hnull ((Value.isNull_iff _).2 hn)
    have hj : w.site.heap.key S i = .ok ⟨w.site.heap.typeOf i, id⟩ := Heap.key_eq_ok.2 ⟨hid, rfl⟩
    obtain ⟨entity, u, hu, h⟩ := Act.perform_bind_ok.1 h
    obtain ⟨hentity, rfl⟩ := Prod.mk.inj hu
    cases hentity
    split at h
    · next hcontains =>
      cases h
      exact .known hj hn hcontains
    · next hcontains =>
      obtain ⟨_, u, hu, h⟩ := Act.perform_bind_ok.1 h
      cases hu
      obtain ⟨c, hc, rfl⟩ := Work.perform_modifyContext_ok.1 h
      exact .waiting hj hn (by simpa using hcontains) hc

/-- Where making an instance persistent has failed, and what has become of the session. -/
inductive Rejects (S : Schema) (w : Work δ) (i : InstanceId) (e : Error) : Work δ → Prop
  /-- The session is closed, or the instance shows no identifier. -/
  | refused (h : w.session.isOpen = false ∨ w.site.heap.id S i = .error e) : Rejects S w i e w
  /-- Without an identifier, the row was not inserted, or the instance not tracked after that. -/
  | generated {t : Site δ} (hid : w.site.heap.id S i = .ok .null) :
      Rejects S w i e ⟨t, w.session⟩
  /-- The insert waits already, but the instance cannot be tracked. -/
  | waiting {j : EntityKey} (hj : w.site.heap.key S i = .ok j) (hn : j.id ≠ .null)
      (hc : w.session.context.contains j = false)
      (hput : w.session.context.put S w.site.heap i = .error e) :
      Rejects S w i e { w with session := { w.session with
        queue := w.session.queue.push (.insert w.session.gateway j.entity i) } }

theorem persist_rejects [Database δ] {i : InstanceId} {e : Error}
    (h : (persist S i).perform w = (.error e, v)) : Rejects S w i e v := by
  rcases Act.perform_bind_error.1 h with h | ⟨_, u, hu, h⟩
  · obtain ⟨hclosed, rfl⟩ := ensureOpen_error h
    exact .refused (.inl hclosed)
  obtain ⟨-, rfl⟩ := ensureOpen_ok hu
  rcases Act.perform_bind_error.1 h with h | ⟨id, u, hu, h⟩
  · obtain ⟨hid, rfl⟩ := Prod.mk.inj h
    exact .refused (.inr hid)
  obtain ⟨hid, rfl⟩ := Prod.mk.inj hu
  rcases Act.perform_bind_error.1 h with h | ⟨s, u, hu, h⟩
  · cases h
  cases hu
  split at h
  · next hnull =>
    have hid : w.site.heap.id S i = .ok .null := (Value.isNull_iff id).1 hnull ▸ hid
    rcases Act.perform_bind_error.1 h with h | ⟨_, u, hu, h⟩
    · rw [← (Prod.mk.inj h).2]
      exact .generated hid
    · obtain ⟨t, -, rfl⟩ := Work.perform_onSite_ok.1 hu
      rw [(Work.of_modifyContext_error h).2]
      exact .generated hid
  · next hnull =>
    rcases Act.perform_bind_error.1 h with h | ⟨entity, u, hu, h⟩
    · cases h
    cases hu
    split at h
    · cases h
    · next hcontains =>
      rcases Act.perform_bind_error.1 h with h | ⟨_, u, hu, h⟩
      · cases h
      cases hu
      obtain ⟨hput, rfl⟩ := Work.of_modifyContext_error h
      have hput : w.session.context.put S w.site.heap i = .error e := hput
      exact .waiting (Heap.key_eq_ok.2 ⟨hid, rfl⟩) (fun hn => hnull ((Value.isNull_iff _).2 hn))
        (by simpa using hcontains) hput

/-- An instance that was made persistent is tracked, or another one under its key. -/
theorem persist_tracked [Database δ] {i : InstanceId} {j : EntityKey}
    (h : (persist S i).perform w = (.ok (), v)) (hj : w.site.heap.key S i = .ok j)
    (hn : j.id ≠ .null) : ∃ l, v.session.context.get? j = some l := by
  obtain ⟨-, hregisters⟩ := persist_ok h
  cases hregisters with
  | generated hid =>
    rw [(Heap.key_eq_ok.1 hj).1, Except.ok.injEq] at hid
    exact absurd hid hn
  | known hj' _ hc =>
    rw [hj, Except.ok.injEq] at hj'
    exact Context.contains_iff.1 (hj' ▸ hc)
  | waiting _ _ _ hput => exact Context.get?_put_self hput hj

/-- What is tracked stays tracked when an instance is made persistent. -/
theorem persist_grows [Database δ] (i : InstanceId) (w : Work δ) :
    w.session.context.Grows ((persist S i).perform w).2.session.context := by
  let R (v u : Work δ) : Prop := v.session.context.Grows u.session.context
  have hput (v : Work δ) : (Work.modifyContext fun h c => c.put S h i).Via R v :=
    Work.modifyContext_via v fun _ h => Context.put_grows h
  have hvia : (persist S i).Via R w := by
    refine .bind (.reading _) fun _ v _ => ?_
    refine .bind (.reading _) fun id v _ => ?_
    refine .bind (.reading _) fun s v _ => ?_
    split
    · exact .bind (.of (.refl _)) fun _ v _ => hput v
    · refine .bind (.reading _) fun entity v _ => ?_
      split
      · exact .pure _
      · exact .bind (.of (.refl _)) fun _ v _ => hput v
  exact hvia.invariant (P := R w) (fun _ _ h hv => hv.trans h) (.refl _)

/-! ## Flushing -/

/-- Actions were added to the queue, and choices were drawn. -/
structure Queues (w v : Work δ) : Prop where
  site : v.site = w.site
  context : v.session.context = w.session.context
  queued : ∀ a ∈ w.session.queue.pending, a ∈ v.session.queue.pending

theorem Queues.refl (w : Work δ) : Queues w w := ⟨rfl, rfl, fun _ ha => ha⟩

theorem Queues.trans {w v u : Work δ} (h : Queues w v) (h' : Queues v u) : Queues w u :=
  ⟨h'.site.trans h.site, h'.context.trans h.context, fun a ha => h'.queued a (h.queued a ha)⟩

theorem enqueueUpdates_queues (dirty : List (EntityKey × InstanceId)) (w : Work δ) :
    (enqueueUpdates S dirty).Via Queues w := by
  induction dirty generalizing w with
  | nil => exact .pure _
  | cons e rest ih =>
    refine .bind (.reading _) fun columns v _ => ?_
    exact .bind (.of ⟨rfl, rfl, fun _ ha => List.mem_append_left _ ha⟩) fun _ v _ => ih v

/-- Looking for changes only adds to the queue. -/
theorem scheduleUpdates_queues (w : Work δ) : Queues w ((scheduleUpdates S).perform w).2 := by
  have hvia : (scheduleUpdates S).Via Queues w := by
    refine .bind (.bind (.reading _) fun s v _ => ?_) fun dirty v _ => ?_
    · exact .bind (.of ⟨rfl, rfl, fun _ ha => ha⟩) fun _ v _ => .reading _
    · exact .bind (enqueueUpdates_queues dirty v) fun _ _ _ => .pure _
  exact hvia.invariant (P := Queues w) (fun _ _ h hw => hw.trans h) (.refl w)

variable [Database δ] [Callbacks δ]

/-- Running a queue tracks nothing more and queues nothing. -/
theorem drain_emptied {q : Queue} (hw : w.session.queue.pending = []) :
    ((drain S q).perform w).2.session.queue.pending = [] ∧
      ((drain S q).perform w).2.session.context.instances = w.session.context.instances := by
  have hrun : ∀ a ∈ q.pending, ∀ v : Work δ,
      v.session.queue.pending = [] ∧ v.session.context.instances = w.session.context.instances →
      ((a.run S).perform v).2.session.queue.pending = [] ∧
        ((a.run S).perform v).2.session.context.instances = w.session.context.instances := by
    intro a _ v hv
    let P (u : Work δ) : Prop :=
      u.session.queue.pending = [] ∧ u.session.context.instances = w.session.context.instances
    cases a with
    | insert g entity i => exact hv
    | delete g k => exact Work.after_onSite_bind (P := P) (fun _ _ _ => hv) fun _ _ _ => hv
    | update g k columns =>
      refine Work.after_onSite_bind (P := P) (fun _ t _ => ?_) fun _ _ _ => hv
      cases hc : v.session.context.refresh S t.heap k with
      | error e =>
        rw [Work.perform_modifyContext_error hc]
        exact hv
      | ok c =>
        rw [Work.perform_modifyContext_ok.2 ⟨c, hc, rfl⟩]
        exact ⟨hv.1, (Context.instances_refresh hc).trans hv.2⟩
    | outside number name priority => exact hv
  exact Queue.drain_invariant hrun ⟨hw, rfl⟩

/-- A flush only queues updates, or it leaves nothing waiting.  It never tracks anything. -/
theorem flush_queues_or_emptied (w : Work δ) :
    Queues w ((flush S).perform w).2 ∨ ((flush S).perform w).2.session.queue.pending = [] ∧
      ((flush S).perform w).2.session.context.instances = w.session.context.instances := by
  let P (v : Work δ) : Prop := Queues w v ∨
    v.session.queue.pending = [] ∧ v.session.context.instances = w.session.context.instances
  refine Act.after_reading_bind (P := P) (fun _ _ => ?_) (.inl (.refl w))
  have hqueues := scheduleUpdates_queues (S := S) w
  refine Act.after_bind (fun _ v hv => ?_) fun _ v hv => ?_
  · rw [hv] at hqueues
    refine Act.after_bind (fun q u hu => ?_) fun _ _ hu => by cases hu
    cases hu
    obtain ⟨hempty, hinstances⟩ := drain_emptied (S := S) (q := v.session.queue)
      (w := { v with session := { v.session with queue := .empty } }) rfl
    rw [hqueues.context] at hinstances
    refine Act.after_bind (fun _ t ht => ?_) fun _ t ht => ?_
    · rw [ht] at hempty hinstances
      exact .inr ⟨hempty, hinstances⟩
    · rw [ht] at hempty hinstances
      exact .inr ⟨hempty, hinstances⟩
  · rw [hv] at hqueues
    exact .inl hqueues

theorem flush_instances (w : Work δ) :
    ((flush S).perform w).2.session.context.instances = w.session.context.instances := by
  rcases flush_queues_or_emptied (S := S) w with hqueues | ⟨-, hinstances⟩
  · rw [hqueues.context]
  · exact hinstances

/-- A session that is closed tracks nothing, and closing a second time changes nothing. -/
theorem close_closed (w : Work δ) :
    (w.session.isOpen = false ∧ w = ((close S).perform w).2) ∨
      ((close S).perform w).2.session.context = .empty ∧
        ((close S).perform w).2.session.isOpen = false := by
  let P (v : Work δ) : Prop :=
    (w.session.isOpen = false ∧ w = v) ∨ v.session.context = .empty ∧ v.session.isOpen = false
  refine Act.after_bind (P := P) (fun s u hu => ?_) fun _ _ hu => by cases hu
  obtain ⟨hs, rfl⟩ := Prod.mk.inj hu
  cases hs
  split
  · next hclosed => exact .inl ⟨by simpa using hclosed, rfl⟩
  · refine Act.after_bind (fun _ u hu => ?_) fun _ u hu => by cases hu
    cases hu
    let u : Work δ := { w with session := { w.session with isOpen := false } }
    have hopen := (scheduleUpdates_change (S := S) u).isOpen
    refine Act.after_bind (fun r v hv => ?_) fun _ v hv => by cases hv
    obtain ⟨-, rfl⟩ := Prod.mk.inj hv
    refine Act.after_bind (fun _ t ht => ?_) fun _ t ht => by cases ht
    cases ht
    refine .inr ⟨rfl, Bool.eq_false_iff.2 fun hv => ?_⟩
    cases hopen hv

/-! ## Any step -/

theorem Step.isOpen {e : Event} (h : Step S w e v) (hv : v.session.isOpen = true) :
    w.session.isOpen = true := by
  cases h with
  | elsewhere => exact hv
  | call c h =>
    obtain rfl := congrArg Prod.snd h
    exact (act_change c w).isOpen hv

/-- If nobody elsewhere changes the identifiers of tracked instances, these keep the keys that they are
tracked under. -/
theorem step_identified {e : Event} (h : Step S w e v) (hleaves : LeavesIds S ⟨w, e, v⟩)
    (hs : Sound S w) (hw : w.session.context.Identified S w.site.heap) :
    v.session.context.Identified S v.site.heap := by
  cases h with
  | call c h =>
    obtain rfl := congrArg Prod.snd h
    exact identified_act hs hw (act_change c w)
  | elsewhere choices held transaction h =>
    intro e he
    obtain ⟨hid, htype⟩ := Heap.key_eq_ok.1 (hw e he)
    obtain ⟨x, hx⟩ := Heap.exists_of_id hid
    exact Heap.key_eq_ok.2 ⟨hleaves rfl e he _ hid, (h.typeOf hx).trans htype⟩

/-- While the session is open, what is tracked under a key stays there until the key is deleted. -/
theorem step_tracked {e : Event} {i : InstanceId} (h : Step S w e v) (hd : ¬Deletes S k ⟨w, e, v⟩)
    (hv : v.session.isOpen = true) (hk : w.session.context.get? k = some i) :
    v.session.context.get? k = some i := by
  cases h with
  | elsewhere => exact hk
  | call c h =>
    cases c with
    | find entity id =>
      obtain ⟨_, h, -⟩ := Act.perform_map_eq h
      obtain rfl := congrArg Prod.snd h
      exact (findById_growth entity id w).grows.context.get? k i hk
    | ask request =>
      obtain rfl := congrArg Prod.snd h
      exact (askSession_growth request w).grows.context.get? k i hk
    | persist j =>
      obtain ⟨_, h, -⟩ := Act.perform_map_eq h
      obtain rfl := congrArg Prod.snd h
      exact (persist_grows j w).get? k i hk
    | delete i =>
      obtain ⟨_, hdelete, rfl⟩ := Act.perform_map_eq h
      rw [delete_get? hdelete fun _ j hu hj => Bool.eq_false_iff.2 fun hjk => ?_]
      · exact hk
      · exact hd ⟨i, [], j, by rw [hu]; rfl, hj, hjk⟩
    | flush =>
      obtain ⟨_, h, -⟩ := Act.perform_map_eq h
      obtain rfl := congrArg Prod.snd h
      exact (congrArg (·.get? k) (flush_instances w)).trans hk
    | close =>
      obtain ⟨_, h, -⟩ := Act.perform_map_eq h
      obtain rfl := congrArg Prod.snd h
      rcases close_closed (S := S) w with ⟨-, hsame⟩ | ⟨-, hclosed⟩
      · rwa [← hsame]
      · rw [hclosed] at hv
        cases hv

end Calls

/-! ## Runs -/

section Runs

variable [Database δ] [Callbacks δ] {k : EntityKey} {w v : Work δ} {trace : List (Moment δ)}

/-- A session that is open now has been open all the time. -/
theorem run_isOpen (hrun : Run (Step S) w trace v) (hv : v.session.isOpen = true) :
    w.session.isOpen = true := by
  refine hrun.invariant (P := fun u : Work δ => u.session.isOpen = true → w.session.isOpen = true) ?_
    (fun hw => hw) hv
  exact fun x _ hstep hx hopen => hx (hstep.isOpen hopen)

/-- In a session that is still open, what was tracked under a key is tracked under it now, if the key
was not deleted. -/
theorem run_tracked {i : InstanceId} (hrun : Run (Step S) w trace v)
    (hd : ∀ x ∈ trace, ¬Deletes S k x) (hv : v.session.isOpen = true)
    (hk : w.session.context.get? k = some i) : v.session.context.get? k = some i := by
  induction hrun with
  | nil => exact hk
  | cons hstep hrest ih =>
    obtain ⟨hdelete, hd⟩ := List.forall_mem_cons.1 hd
    exact ih hd hv (step_tracked hstep hdelete (run_isOpen hrest hv) hk)

/-- After a delete its key is not tracked. -/
theorem Deletes.untracked {x : Moment δ} (h : Deletes S k x) (hx : Step S x.before x.event x.after) :
    x.after.session.context.get? k = none := by
  obtain ⟨i, r, j, hevent, hj, hjk⟩ := h
  rw [hevent] at hx
  cases hx with
  | call _ h =>
    obtain ⟨_, h, -⟩ := Act.perform_map_ok.1 h
    obtain ⟨j', hj', -, hv⟩ := delete_ok h
    rw [hj, Except.ok.injEq] at hj'
    subst hj'
    rw [hv]
    exact (Context.get?_remove ..).trans (if_pos hjk)

/-- An instance that was made persistent is tracked, or another one under its key. -/
theorem Persists.tracked {x : Moment δ} (h : Persists S k x) (hk : k.id ≠ .null)
    (hx : Step S x.before x.event x.after) : ∃ i, x.after.session.context.get? k = some i := by
  obtain ⟨i, r, j, hevent, hj, hjk⟩ := h
  rw [hevent] at hx
  cases hx with
  | call _ h =>
    obtain ⟨_, h, -⟩ := Act.perform_map_ok.1 h
    rw [← Context.get?_congr hjk]
    exact persist_tracked h hj (EntityKey.id_ne_null hjk hk)

end Runs

end Session

end EntitySession
