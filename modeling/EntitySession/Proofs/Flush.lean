import EntitySession.Declaration
import EntitySession.Proofs.Dirtiness
import EntitySession.Proofs.Queue
import EntitySession.Proofs.Writes
import EntitySession.Rehearsal.Scene
import Mathlib.Data.List.Perm.Basic

/-!
# A flush that succeeds

A flush looks for what is dirty, queues an update for each of it, and runs the queue.  If nothing fails,
it has done everything that was waiting and everything that had changed, each of it once, and nothing
else: `Session.Flushed` says which statements were sent, in which order of kinds, and that afterwards
the queue is empty and nothing is dirty.  `Session.Reachable.flushed` proves it of every state that a
session can come to, whatever choices are left open.

Two things are assumed.  An update that waits already, because an earlier flush failed while it looked
for changes, would be sent besides the new ones; and an instance that has lost its identifier would be
given another one.

The run of the queue falls into three stretches, since inserts are more urgent than updates and updates
more than deletes.  None of them touches an instance, so what the scan found stays true throughout.
-/

set_option autoImplicit false

namespace EntitySession

/-! ## What waits in a queue -/

/-- The instance that an action inserts. -/
def Action.inserted? : Action → Option InstanceId
  | insert _ _ i => some i
  | _ => none

/-- The key that an action deletes. -/
def Action.deleted? : Action → Option EntityKey
  | delete _ k => some k
  | _ => none

/-- Whether an action is an update. -/
def Action.isUpdate : Action → Bool
  | update _ _ _ => true
  | _ => false

namespace Action

variable {as : List Action}

/-- Among inserts there is no update and no delete. -/
theorem others_of_inserts (h : ∀ a ∈ as, ∃ g entity i, a = .insert g entity i) :
    as.filter isUpdate = [] ∧ as.filterMap deleted? = [] := by
  constructor
  · refine List.filter_eq_nil_iff.2 fun a ha => ?_
    obtain ⟨g, entity, i, rfl⟩ := h a ha
    exact Bool.false_ne_true
  · refine List.filterMap_eq_nil_iff.2 fun a ha => ?_
    obtain ⟨g, entity, i, rfl⟩ := h a ha
    rfl

/-- Among updates there is nothing else. -/
theorem others_of_updates (h : ∀ a ∈ as, ∃ g k columns, a = .update g k columns) :
    as.filter isUpdate = as ∧ as.filterMap inserted? = [] ∧ as.filterMap deleted? = [] := by
  refine ⟨List.filter_eq_self.2 fun a ha => ?_, List.filterMap_eq_nil_iff.2 fun a ha => ?_,
    List.filterMap_eq_nil_iff.2 fun a ha => ?_⟩ <;>
  · obtain ⟨g, k, columns, rfl⟩ := h a ha
    rfl

/-- Among deletes there is no update and no insert. -/
theorem others_of_deletes (h : ∀ a ∈ as, ∃ g k, a = .delete g k) :
    as.filter isUpdate = [] ∧ as.filterMap inserted? = [] := by
  constructor
  · refine List.filter_eq_nil_iff.2 fun a ha => ?_
    obtain ⟨g, k, rfl⟩ := h a ha
    exact Bool.false_ne_true
  · refine List.filterMap_eq_nil_iff.2 fun a ha => ?_
    obtain ⟨g, k, rfl⟩ := h a ha
    rfl

end Action

variable {δ : Type} {S : Schema}

/-- The update that a flush queues for an entry. -/
def Action.IsUpdateOf (S : Schema) (w : Work δ) (e : EntityKey × InstanceId) (a : Action) : Prop :=
  ∃ columns, Session.updateColumns S w.site.heap e.2 = .ok columns ∧
    a = .update w.session.gateway e.1 columns

namespace Session

/-! ## Looking for changes -/

theorem dirtyEntities_ok {w v : Work δ} {dirty : List (EntityKey × InstanceId)}
    (h : (dirtyEntities S).perform w = (.ok dirty, v)) :
    ∃ tracked choices, tracked.Perm w.session.context.instances ∧
      w.session.context.dirtyAmong S w.site.heap tracked = .ok dirty ∧
        v = { w with session := { w.session with choices } } := by
  obtain ⟨s, u, hu, h⟩ := Act.perform_bind_ok.1 h
  cases hu
  obtain ⟨_, u, hu, h⟩ := Act.perform_bind_ok.1 h
  cases hu
  obtain ⟨hdirty, rfl⟩ := Prod.mk.inj h
  exact ⟨_, _, Choices.shuffle_perm .., hdirty, rfl⟩

theorem enqueueUpdates_ok {dirty : List (EntityKey × InstanceId)} {w v : Work δ}
    (h : (enqueueUpdates S dirty).perform w = (.ok (), v)) :
    ∃ updates, List.Forall₂ (Action.IsUpdateOf S w) dirty updates ∧
      v = { w with session := { w.session with
        queue := ⟨w.session.queue.pending ++ updates⟩ } } := by
  induction dirty generalizing w with
  | nil =>
    cases h
    exact ⟨[], .nil, by rw [List.append_nil]⟩
  | cons e rest ih =>
    obtain ⟨columns, u, hu, h⟩ := Act.perform_bind_ok.1 h
    obtain ⟨hcolumns, rfl⟩ := Prod.mk.inj hu
    obtain ⟨_, u, hu, h⟩ := Act.perform_bind_ok.1 h
    cases hu
    obtain ⟨updates, hupdates, rfl⟩ := ih h
    refine ⟨.update w.session.gateway e.1 columns :: updates,
      .cons ⟨columns, hcolumns, rfl⟩ hupdates, ?_⟩
    simp only [Queue.push, List.append_assoc, List.singleton_append]

theorem scheduleUpdates_ok {w v : Work δ} {n : Nat}
    (h : (scheduleUpdates S).perform w = (.ok n, v)) :
    ∃ tracked dirty updates choices, tracked.Perm w.session.context.instances ∧
      w.session.context.dirtyAmong S w.site.heap tracked = .ok dirty ∧
        List.Forall₂ (Action.IsUpdateOf S w) dirty updates ∧
          v = { w with session := { w.session with
            choices, queue := ⟨w.session.queue.pending ++ updates⟩ } } := by
  obtain ⟨dirty, u, hu, h⟩ := Act.perform_bind_ok.1 h
  obtain ⟨tracked, choices, hperm, hdirty, rfl⟩ := dirtyEntities_ok hu
  obtain ⟨_, u, hu, h⟩ := Act.perform_bind_ok.1 h
  obtain ⟨updates, hupdates, rfl⟩ := enqueueUpdates_ok hu
  cases h
  exact ⟨tracked, dirty, updates, choices, hperm, hdirty, hupdates, rfl⟩

variable [Database δ] [Callbacks δ]

theorem drain_ok {q : Queue} {w v : Work δ} {n : Nat} (h : (drain S q).perform w = (.ok n, v)) :
    ∃ order u choices, order.Perm q.pending ∧
      order.Pairwise (fun a b => a.priority ≤ b.priority) ∧
        (Act.each (Action.run S) order).perform w = (.ok (), u) ∧
          v = { u with session := { u.session with choices } } := by
  rw [drain, Act.perform_of] at h
  rcases hd : q.drain (Action.run S) w.session.choices w with ⟨⟨r, u⟩, _, choices⟩
  rw [hd] at h
  obtain ⟨rfl, rfl⟩ := Prod.mk.inj h
  obtain ⟨order, hperm, hsorted, hrun⟩ := Queue.drain_ok hd
  exact ⟨order, u, choices, hperm, hsorted, hrun, rfl⟩

/-- A flush that succeeds: the scan, and the order in which everything was run. -/
theorem flush_ok {w v : Work δ} (h : (flush S).perform w = (.ok (), v)) :
    w.session.isOpen = true ∧ ∃ tracked dirty updates order u choices choices',
      tracked.Perm w.session.context.instances ∧
      w.session.context.dirtyAmong S w.site.heap tracked = .ok dirty ∧
      List.Forall₂ (Action.IsUpdateOf S w) dirty updates ∧
      order.Perm (w.session.queue.pending ++ updates) ∧
      order.Pairwise (fun a b => a.priority ≤ b.priority) ∧
      (Act.each (Action.run S) order).perform
        { w with session := { w.session with choices, queue := .empty } } = (.ok (), u) ∧
      v = { u with session := { u.session with choices := choices' } } := by
  obtain ⟨_, u, hu, h⟩ := Act.perform_bind_ok.1 h
  obtain ⟨hopen, rfl⟩ := ensureOpen_ok hu
  obtain ⟨_, u', hu', h⟩ := Act.perform_bind_ok.1 h
  obtain ⟨tracked, dirty, updates, choices, htracked, hdirty, hupdates, rfl⟩ := scheduleUpdates_ok hu'
  obtain ⟨q, u', hu', h⟩ := Act.perform_bind_ok.1 h
  cases hu'
  obtain ⟨_, u', hu', h⟩ := Act.perform_bind_ok.1 h
  obtain ⟨order, u'', choices', hperm, hsorted, hrun, rfl⟩ := drain_ok hu'
  cases h
  exact ⟨hopen, tracked, dirty, updates, order, u'', choices, choices', htracked, hdirty, hupdates,
    hperm, hsorted, hrun, rfl⟩

end Session

/-! ## The three stretches -/

section Stretches

variable [Database δ] [Callbacks δ] {g : Gateway}

theorem Action.run_insert_ok {entity : String} {i : InstanceId} {w v : Work (Recorded δ)}
    (hid : w.site.heap.id S i ≠ .ok .null)
    (h : ((Action.insert g entity i).run S).perform w = (.ok (), v)) :
    ∃ x, x.Inserts S w.site.heap g.connection i ∧ w.site.Sends v.site [x] ∧ v.session = w.session := by
  obtain ⟨t, ht, rfl⟩ := Work.perform_onSite_ok.1 h
  obtain ⟨x, hx, hsends⟩ := Gateway.save_ok hid ht
  exact ⟨x, hx, hsends, rfl⟩

theorem Action.run_delete_ok {k : EntityKey} {w v : Work (Recorded δ)}
    (h : ((Action.delete g k).run S).perform w = (.ok (), v)) :
    ∃ x, x.Deletes S g.connection k ∧ w.site.Sends v.site [x] ∧ v.session = w.session := by
  obtain ⟨n, u, hu, h⟩ := Act.perform_bind_ok.1 h
  obtain ⟨t, ht, rfl⟩ := Work.perform_onSite_ok.1 hu
  obtain ⟨x, hx, hsends⟩ := Gateway.deleteByKey_ok ht
  cases h
  exact ⟨x, hx, hsends, rfl⟩

/-- The update of a dirty entry that is still what it was. -/
theorem Action.run_update_ok {w v : Work (Recorded δ)} {e : EntityKey × InstanceId}
    {columns : List ColumnValue} (hw : w.session.context.Sound S w.site.heap)
    (he : e ∈ w.session.context.instances)
    (hdirty : ∀ m, S.metadata e.1.entity = .ok m → m.nonIdFields ≠ [])
    (hcolumns : Session.updateColumns S w.site.heap e.2 = .ok columns)
    (h : ((Action.update g e.1 columns).run S).perform w = (.ok (), v)) :
    ∃ x c, x.Updates S w.site.heap g.connection e ∧ w.site.Sends v.site [x] ∧
      w.session.context.refresh S w.site.heap e.1 = .ok c ∧
        v.session = { w.session with context := c } := by
  obtain ⟨m, fields, hm, hperm, hfields⟩ := Session.updateColumns_ok hcolumns
  rw [(hw.entry e he).typeOf] at hm
  have hne : columns ≠ [] := by
    rintro rfl
    cases hfields
    exact hdirty m hm (List.nil_perm.1 hperm)
  have hnodup : (fields.map PersistentField.column).Nodup := by
    rw [(hperm.map _).nodup_iff]
    exact (m.nonIdFields_sublist.map _).nodup (Mappings.sound_of_resolve hm).columns_nodup
  have hnames : columns.map ColumnValue.column = fields.map PersistentField.column :=
    (map_eq_map_of_forall₂ (hfields.imp fun _ _ h => h.1.symm)).symm
  have hvalues : List.Forall₂ (fun f v => w.site.heap.written S e.2 f = .ok v) fields
      (columns.map ColumnValue.value) :=
    List.forall₂_map_right_iff.2 (hfields.imp fun _ _ h => h.2)
  obtain ⟨n, u, hu, h⟩ := Act.perform_bind_ok.1 h
  obtain ⟨t, ht, rfl⟩ := Work.perform_onSite_ok.1 hu
  obtain ⟨m', hm', hsends⟩ := Gateway.update_ok hne ht
  rw [hm] at hm'
  cases hm'
  obtain ⟨c, hc, rfl⟩ := Work.perform_modifyContext_ok.1 h
  rw [hnames] at hsends
  exact ⟨_, c, ⟨m, fields, _, n, hm, hperm, hnodup, hvalues, rfl⟩, hsends, hsends.heap ▸ hc, rfl⟩

theorem Action.each_insert_ok {as : List Action} {w v : Work (Recorded δ)}
    (has : ∀ a ∈ as, ∃ entity i, a = .insert g entity i ∧ w.site.heap.id S i ≠ .ok .null)
    (h : (Act.each (Action.run S) as).perform w = (.ok (), v)) :
    ∃ xs, List.Forall₂ (fun i x => x.Inserts S w.site.heap g.connection i)
        (as.filterMap Action.inserted?) xs ∧
      w.site.Sends v.site xs ∧ v.session = w.session := by
  induction as generalizing w with
  | nil =>
    cases h
    exact ⟨[], .nil, .refl _, rfl⟩
  | cons a as ih =>
    obtain ⟨⟨entity, i, rfl, hid⟩, hrest⟩ := List.forall_mem_cons.1 has
    obtain ⟨_, u, hu, h⟩ := Act.perform_bind_ok.1 h
    obtain ⟨x, hx, hsends, hsession⟩ := Action.run_insert_ok hid hu
    obtain ⟨xs, hxs, hsends', hsession'⟩ := ih (by rwa [hsends.heap]) h
    rw [hsends.heap] at hxs
    exact ⟨x :: xs, .cons hx hxs, hsends.trans hsends', hsession'.trans hsession⟩

theorem Action.each_delete_ok {as : List Action} {w v : Work (Recorded δ)}
    (has : ∀ a ∈ as, ∃ k, a = .delete g k)
    (h : (Act.each (Action.run S) as).perform w = (.ok (), v)) :
    ∃ xs, List.Forall₂ (fun k x => x.Deletes S g.connection k) (as.filterMap Action.deleted?) xs ∧
      w.site.Sends v.site xs ∧ v.session = w.session := by
  induction as generalizing w with
  | nil =>
    cases h
    exact ⟨[], .nil, .refl _, rfl⟩
  | cons a as ih =>
    obtain ⟨⟨k, rfl⟩, hrest⟩ := List.forall_mem_cons.1 has
    obtain ⟨_, u, hu, h⟩ := Act.perform_bind_ok.1 h
    obtain ⟨x, hx, hsends, hsession⟩ := Action.run_delete_ok hu
    obtain ⟨xs, hxs, hsends', hsession'⟩ := ih hrest h
    exact ⟨x :: xs, .cons hx hxs, hsends.trans hsends', hsession'.trans hsession⟩

/-- The updates of dirty entries are sent as they were queued, and leave those entries clean.  What was
clean before stays so. -/
theorem Action.each_update_ok {as : List Action} {es : List (EntityKey × InstanceId)} {heap : Heap}
    {w v : Work (Recorded δ)} (hheap : w.site.heap = heap) (hw : w.session.context.Sound S heap)
    (hes : ∀ e ∈ es, e ∈ w.session.context.instances ∧
      ∀ m, S.metadata e.1.entity = .ok m → m.nonIdFields ≠ [])
    (has : List.Forall₂ (fun a e => ∃ columns, Session.updateColumns S heap e.2 = .ok columns ∧
      a = .update g e.1 columns) as es)
    (h : (Act.each (Action.run S) as).perform w = (.ok (), v)) :
    ∃ xs c, List.Forall₂ (fun e x => x.Updates S heap g.connection e) es xs ∧
      w.site.Sends v.site xs ∧ v.session = { w.session with context := c } ∧
        c.instances = w.session.context.instances ∧ c.Sound S heap ∧
          ∀ e ∈ c.instances, e ∈ es ∨ w.session.context.differsFor S heap e = .ok false →
            c.differsFor S heap e = .ok false := by
  induction has generalizing w with
  | nil =>
    cases h
    exact ⟨[], _, .nil, .refl _, rfl, rfl, hw, fun e _ he => he.resolve_left List.not_mem_nil⟩
  | @cons a e as es ha has ih =>
    subst hheap
    obtain ⟨columns, hcolumns, rfl⟩ := ha
    obtain ⟨⟨he, hfields⟩, hrest⟩ := List.forall_mem_cons.1 hes
    obtain ⟨_, u, hu, h⟩ := Act.perform_bind_ok.1 h
    obtain ⟨x, c, hx, hsends, hrefresh, hsession⟩ := Action.run_update_ok hw he hfields hcolumns hu
    have hinstances : c.instances = w.session.context.instances := Context.instances_refresh hrefresh
    have hcontext : u.session.context = c := by rw [hsession]
    obtain ⟨xs, c', hxs, hsends', hsession', hinstances', hsound, hclean⟩ := ih hsends.heap
      (by rw [hcontext]; exact hw.refresh hrefresh) (by rw [hcontext, hinstances]; exact hrest) h
    rw [hcontext] at hinstances' hclean
    refine ⟨x :: xs, c', .cons hx hxs, hsends.trans hsends', ?_, hinstances'.trans hinstances, hsound,
      fun d hd hdes => hclean d hd ?_⟩
    · rw [hsession', hsession]
    · have hd' : d ∈ w.session.context.instances := by rwa [hinstances', hinstances] at hd
      rcases hdes with hdes | hdes
      · rcases List.mem_cons.1 hdes with rfl | hdes
        · exact .inr (hw.clean_refresh hrefresh hd' (.inl BEq.rfl))
        · exact .inl hdes
      · exact .inr (hw.clean_refresh hrefresh hd' (.inr hdes))

end Stretches

/-! ## The whole -/

namespace Session

/-- What a flush has done that began in the first state and succeeded in the second: the statements
that it sent, and the state of the session afterwards. -/
structure Flushed (S : Schema) (w v : Work (Recorded δ)) : Prop where
  /-- One insert for each that waited, then one update for each dirty entry, then one delete for each
  that waited, and nothing besides. -/
  sent : ∃ subjects entries keys inserts updates deletes,
    subjects.Perm (w.session.queue.pending.filterMap Action.inserted?) ∧
    entries.Perm (w.session.context.dirtyEntries S w.site.heap) ∧
    keys.Perm (w.session.queue.pending.filterMap Action.deleted?) ∧
    List.Forall₂ (fun i x => x.Inserts S w.site.heap w.session.gateway.connection i) subjects inserts ∧
    List.Forall₂ (fun e x => x.Updates S w.site.heap w.session.gateway.connection e) entries updates ∧
    List.Forall₂ (fun k x => x.Deletes S w.session.gateway.connection k) keys deletes ∧
    v.site.outside.exchanges = w.site.outside.exchanges ++ (inserts ++ updates ++ deletes)
  queue : v.session.queue.pending = []
  instances : v.session.context.instances = w.session.context.instances
  clean : ∀ k, v.session.context.isDirty S v.site.heap k = .ok false

/-- What a flush has run first of an order that it may not have come to the end of: inserts that waited,
updates that it has queued itself, and deletes that waited. -/
theorem exists_parts_of_append {w : Work δ} (hw : Sound S w)
    (hqueue : ∀ a ∈ w.session.queue.pending, a.isUpdate = false) {queued done rest : List Action}
    (hqueued : ∀ a ∈ queued, ∃ k columns, a = .update w.session.gateway k columns)
    (horder : (done ++ rest).Perm (w.session.queue.pending ++ queued))
    (hsorted : (done ++ rest).Pairwise fun a b => a.priority ≤ b.priority) :
    ∃ inserting updating deleting, done = inserting ++ (updating ++ deleting) ∧
      (∀ a ∈ inserting, ∃ entity i, a = .insert w.session.gateway entity i ∧
        a ∈ w.session.queue.pending) ∧
      (updating ++ rest.filter Action.isUpdate).Perm queued ∧
      (∀ a ∈ deleting, ∃ k, a = .delete w.session.gateway k) ∧
      (inserting.filterMap Action.inserted? ++ rest.filterMap Action.inserted?).Perm
        (w.session.queue.pending.filterMap Action.inserted?) ∧
      (deleting.filterMap Action.deleted? ++ rest.filterMap Action.deleted?).Perm
        (w.session.queue.pending.filterMap Action.deleted?) := by
  have horigin : ∀ a ∈ done, a ∈ w.session.queue.pending ∨ a ∈ queued := fun a ha =>
    List.mem_append.1 (horder.mem_iff.1 (List.mem_append_left rest ha))
  have hbelongs : ∀ a ∈ done, a.Belongs w.session.gateway w.site.heap := by
    intro a ha
    rcases horigin a ha with ha | ha
    · exact hw.queued a ha
    · obtain ⟨k, columns, rfl⟩ := hqueued a ha
      rfl
  obtain ⟨inserting, updating, deleting, rfl, hi, hu, hd⟩ :=
    Queue.exists_stretches (List.pairwise_append.1 hsorted).1 (by
      rintro a ha number name priority rfl
      exact hbelongs _ ha)
  obtain ⟨hi', hiDeleted⟩ := Action.others_of_inserts hi
  obtain ⟨hu', huInserted, huDeleted⟩ := Action.others_of_updates hu
  obtain ⟨hd', hdInserted⟩ := Action.others_of_deletes hd
  obtain ⟨hq', hqInserted, hqDeleted⟩ := Action.others_of_updates fun a ha => ⟨_, hqueued a ha⟩
  have hp' : w.session.queue.pending.filter Action.isUpdate = [] :=
    List.filter_eq_nil_iff.2 fun a ha => by rw [hqueue a ha]; exact Bool.false_ne_true
  refine ⟨inserting, updating, deleting, rfl, fun a ha => ?_, ?_, fun a ha => ?_, ?_, ?_⟩
  · have hmem := List.mem_append_left (updating ++ deleting) ha
    obtain ⟨g, entity, i, rfl⟩ := hi a ha
    obtain ⟨rfl, -⟩ := hbelongs _ hmem
    refine ⟨entity, i, rfl, (horigin _ hmem).resolve_right fun hq => ?_⟩
    obtain ⟨k, columns, heq⟩ := hqueued _ hq
    cases heq
  · have hperm := horder.filter Action.isUpdate
    simp only [List.filter_append, hi', hu', hd', hp', hq', List.append_nil, List.nil_append] at hperm
    exact hperm
  · obtain ⟨g, k, rfl⟩ := hd a ha
    obtain rfl := hbelongs _ (List.mem_append_right _ (List.mem_append_right _ ha))
    exact ⟨k, rfl⟩
  · have hperm := horder.filterMap Action.inserted?
    simp only [List.filterMap_append, huInserted, hdInserted, hqInserted, List.append_nil] at hperm
    exact hperm
  · have hperm := horder.filterMap Action.deleted?
    simp only [List.filterMap_append, hiDeleted, huDeleted, hqDeleted, List.append_nil,
      List.nil_append] at hperm
    exact hperm

/-- The order in which a flush has run everything: the inserts that waited, the updates that it has
queued itself, and the deletes that waited. -/
theorem exists_parts {w : Work δ} (hw : Sound S w)
    (hqueue : ∀ a ∈ w.session.queue.pending, a.isUpdate = false) {queued order : List Action}
    (hqueued : ∀ a ∈ queued, ∃ k columns, a = .update w.session.gateway k columns)
    (horder : order.Perm (w.session.queue.pending ++ queued))
    (hsorted : order.Pairwise fun a b => a.priority ≤ b.priority) :
    ∃ inserting updating deleting, order = inserting ++ (updating ++ deleting) ∧
      (∀ a ∈ inserting, ∃ entity i, a = .insert w.session.gateway entity i ∧
        a ∈ w.session.queue.pending) ∧
      updating.Perm queued ∧ (∀ a ∈ deleting, ∃ k, a = .delete w.session.gateway k) ∧
      (inserting.filterMap Action.inserted?).Perm
        (w.session.queue.pending.filterMap Action.inserted?) ∧
      (deleting.filterMap Action.deleted?).Perm
        (w.session.queue.pending.filterMap Action.deleted?) := by
  rw [← List.append_nil order] at horder hsorted
  simpa only [List.filter_nil, List.filterMap_nil, List.append_nil] using
    exists_parts_of_append hw hqueue hqueued horder hsorted

variable [Database δ] [Callbacks δ]

/-- A flush that succeeds does all that waits and all that has changed, and nothing else. -/
theorem Reachable.flushed {w v : Work (Recorded δ)} (hw : Reachable S w)
    (hqueue : ∀ a ∈ w.session.queue.pending, a.isUpdate = false)
    (hid : ∀ g entity i, .insert g entity i ∈ w.session.queue.pending →
      w.site.heap.id S i ≠ .ok .null)
    (h : (flush S).perform w = (.ok (), v)) : Flushed S w v := by
  have hsound := hw.sound
  obtain ⟨-, tracked, dirty, queued, order, u, choices, choices', htracked, hdirty, hqueued, horder,
    hsorted, hrun, rfl⟩ := flush_ok h
  obtain ⟨hentries, hscan⟩ := hsound.context.dirtyAmong_perm htracked hdirty
  have hkind : ∀ a ∈ queued, ∃ k columns, a = .update w.session.gateway k columns := by
    intro a ha
    obtain ⟨n, hn, rfl⟩ := List.getElem_of_mem ha
    obtain ⟨columns, -, heq⟩ := (List.forall₂_iff_get.1 hqueued).2 n (hqueued.length_eq ▸ hn) hn
    exact ⟨_, _, heq⟩
  obtain ⟨inserting, updating, deleting, rfl, hinserting, hupdating, hdeleting, hsubjects, hkeys⟩ :=
    exists_parts hsound hqueue hkind horder hsorted
  have hqueued' : List.Forall₂ (fun a e => Action.IsUpdateOf S w e a) queued dirty := hqueued.flip
  obtain ⟨es, hes, hesperm⟩ := List.perm_comp_forall₂ hupdating hqueued'
  -- none of the three stretches touches an instance, so the scan holds until the end
  obtain ⟨u₁, hrun₁, hrun⟩ := Act.perform_each_append_ok.1 hrun
  obtain ⟨u₂, hrun₂, hrun₃⟩ := Act.perform_each_append_ok.1 hrun
  obtain ⟨inserts, hinserts, hsends₁, hsession₁⟩ := Action.each_insert_ok (fun a ha => by
    obtain ⟨entity, i, rfl, hmem⟩ := hinserting a ha
    exact ⟨entity, i, rfl, hid _ _ _ hmem⟩) hrun₁
  have hcontext : u₁.session.context = w.session.context := by rw [hsession₁]
  have hentry : ∀ e ∈ es, e ∈ u₁.session.context.instances ∧
      ∀ m, S.metadata e.1.entity = .ok m → m.nonIdFields ≠ [] := by
    intro e he
    obtain ⟨hmem, hdiffers⟩ := hsound.context.mem_dirtyEntries.1
      (hentries.mem_iff.1 (hesperm.mem_iff.1 he))
    exact ⟨hcontext ▸ hmem, fun _ hm => hsound.context.columns_of_dirty hmem hdiffers hm⟩
  obtain ⟨updates, c, hupdates, hsends₂, hsession₂, hinstances, hsoundc, hclean⟩ :=
    Action.each_update_ok hsends₁.heap (by rw [hcontext]; exact hsound.context) hentry hes hrun₂
  obtain ⟨deletes, hdeletes, hsends₃, hsession₃⟩ := Action.each_delete_ok hdeleting hrun₃
  rw [hcontext] at hinstances hclean
  have hsends := (hsends₁.trans hsends₂).trans hsends₃
  have hsession : u.session.context = c := by rw [hsession₃, hsession₂]
  refine ⟨⟨_, es, _, inserts, updates, deletes, hsubjects, hesperm.trans hentries, hkeys, hinserts,
    hupdates, hdeletes, hsends.exchanges⟩, ?_, ?_, fun k => ?_⟩
  · change u.session.queue.pending = []
    rw [hsession₃, hsession₂, hsession₁]
    rfl
  · exact (congrArg Context.instances hsession).trans hinstances
  · change u.session.context.isDirty S u.site.heap k = .ok false
    rw [hsession, hsends.heap]
    refine hsoundc.forall_isDirty (fun e he => hclean e he ?_) k
    rw [hinstances] at he
    exact (hscan e he).imp (fun h => hesperm.mem_iff.2 h.2) (fun h => h)

end Session

/-! ## Three notes

A session in which one note waits to be inserted, another has changed and a third waits to be
deleted. -/

namespace Notes

/-- A note: its number and its text. -/
def declaration : Declaration :=
  { entity := "Note"
    marked := true
    table := none
    fields :=
      [⟨{ Field.simple "id" .bigInt with isId := true }, .anyValue⟩,
       ⟨Field.simple "text" .text, .anyValue⟩]
    constructionFault := none
    bindable := true }

/-- Notes are the only entities. -/
def schema : Schema := Declaration.schema [declaration]

/-- A note with a number and a text. -/
def record (n : Int64) (text : String) : Record := ⟨[("id", .bigInt n), ("text", .text text)], []⟩

/-- Three notes, and a connection that accepts every statement. -/
def site : Site (Recorded Rehearsal.Scene) :=
  { heap := ⟨#[⟨"Note", record 1 "a"⟩, ⟨"Note", record 2 "b"⟩, ⟨"Note", record 3 "c"⟩], #[]⟩
    outside := ⟨{ Rehearsal.Scene.empty with connections := #[.scripted (.start "notes")] }, []⟩
    log := [] }

/-- What becomes of a session that is called for something. -/
def after (c : Session.Call) (w : Work (Recorded Rehearsal.Scene)) : Work (Recorded Rehearsal.Scene) :=
  ((c.act schema).perform w).2

/-- A session over the connection. -/
def opened : Work (Recorded Rehearsal.Scene) := ⟨site, .start ⟨0, false⟩ (.session 0)⟩

/-- The first two notes are in the database. -/
def stored : Work (Recorded Rehearsal.Scene) :=
  after .flush (after (.persist 1) (after (.persist 0) opened))

/-- The second note has got another text. -/
def edited : Work (Recorded Rehearsal.Scene) :=
  { stored with site :=
    { stored.site with heap := stored.site.heap.setRecord 1 (record 2 "new") } }

theorem reachable_edited : Session.Reachable schema edited := by
  have hstored : Session.Reachable schema stored :=
    (((Session.reachable_start schema site ⟨0, false⟩ (.session 0)).call (.persist 0)).call
      (.persist 1)).call .flush
  exact hstored.elsewhere (Heap.setRecord_keepsTypes _ _ _)

/-- The third note waits to be inserted, and the first to be deleted. -/
def waiting : Work (Recorded Rehearsal.Scene) := after (.delete 0) (after (.persist 2) edited)

theorem reachable_waiting : Session.Reachable schema waiting :=
  (reachable_edited.call (.persist 2)).call (.delete 0)

/-- The flush sends an insert, an update and a delete. -/
theorem flushed_waiting :
    Session.Flushed schema waiting ((Session.flush schema).perform waiting).2 := by
  refine Session.Reachable.flushed reachable_waiting ?_ ?_ ?_
  · have h : (waiting.session.queue.pending.all fun a => !a.isUpdate) = true := by decide +kernel
    simpa using h
  · have h : (waiting.session.queue.pending.all fun a => (a.inserted?.bind fun i =>
        (waiting.site.heap.id schema i).toOption).all fun id => !id.isNull) = true := by
      decide +kernel
    intro g entity i hi hnull
    have hfalse := List.all_eq_true.1 h _ hi
    simp [Action.inserted?, hnull, Except.toOption, Value.isNull] at hfalse
  · have h : ((Session.flush schema).perform waiting).1.isOk = true := by decide +kernel
    obtain ⟨u, hu⟩ := exists_of_isOk h
    exact Prod.ext hu rfl

end Notes

end EntitySession
