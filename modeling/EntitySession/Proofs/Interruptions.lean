import EntitySession.Proofs.Leftovers
import EntitySession.Proofs.Provenance

/-!
# A flush that is interrupted

A flush stops at the first statement that fails.  It has taken the queue from the session by then, so the
inserts and deletes that it has not come to are gone.  No update is lost, though: an update makes the
present state of its instance the baseline only after its statement has succeeded, and so whatever was
not written is still dirty and is found by the next flush.  `Session.Reachable.interrupted` says so of
every state that a session can come to, of every statement that may fail, and of every order that is left
open.

The failure splits the order in which the flush was running its queue.  What was run before it has
succeeded, and falls into inserts, updates and deletes as the run of a flush that succeeds does
(`Session.Ran`).  Of the dirty entries it has written some (`written`) and not come to the others
(`left`); since the keys of entries are distinct, to renew the baselines of the former leaves those of
the latter alone.
-/

set_option autoImplicit false

namespace EntitySession

variable {δ : Type} {S : Schema}

/-! ## Statements that fail -/

namespace Exchange

/-- The statement that was sent has failed.  An insert has also failed if it did not insert one row. -/
def failed : Exchange → Bool
  | query _ _ _ answer => !answer.isOk
  | execute _ _ _ answer => !answer.isOk
  | insert _ _ _ (.ok result) => result.rows != 1
  | insert _ _ _ (.error _) => true

/-- A write ends in the failure of its statement: the error names the statement, and its cause is what the
connection has answered. -/
inductive EndsIn : Exchange → Error → Prop
  | insert (c : ConnectionId) (sql : String) (values : List Value) (m : Metadata) (cause : Error) :
      EndsIn (.insert c sql values (.error cause))
        ((Gateway.fault m .insertFailed sql none).causedBy cause)
  | insertCount (c : ConnectionId) (sql : String) (values : List Value) (m : Metadata)
      {result : InsertResult} (h : result.rows ≠ 1) :
      EndsIn (.insert c sql values (.ok result))
        (Gateway.fault m (.insertCount result.rows) sql none).error
  | update (c : ConnectionId) (sql : String) (values : List Value) (m : Metadata) (id : Value)
      (cause : Error) : EndsIn (.execute c sql values (.error cause))
        ((Gateway.fault m .updateFailed sql (some id)).causedBy cause)
  | delete (c : ConnectionId) (sql : String) (values : List Value) (m : Metadata) (id : Value)
      (cause : Error) : EndsIn (.execute c sql values (.error cause))
        ((Gateway.fault m .deleteFailed sql (some id)).causedBy cause)

theorem EndsIn.failed {x : Exchange} {e : Error} (h : x.EndsIn e) : x.failed = true := by
  cases h with
  | insertCount _ _ _ _ h => simpa [Exchange.failed] using h
  | _ => rfl

theorem Inserts.not_failed {h : Heap} {c : ConnectionId} {i : InstanceId} {x : Exchange}
    (hx : x.Inserts S h c i) : x.failed = false := by
  obtain ⟨m, values, result, -, -, hrows, rfl⟩ := hx
  simp [failed, hrows]

theorem Updates.not_failed {h : Heap} {c : ConnectionId} {d : EntityKey × InstanceId} {x : Exchange}
    (hx : x.Updates S h c d) : x.failed = false := by
  obtain ⟨m, fields, values, n, -, -, -, -, rfl⟩ := hx
  rfl

theorem Deletes.not_failed {c : ConnectionId} {k : EntityKey} {x : Exchange}
    (hx : x.Deletes S c k) : x.failed = false := by
  obtain ⟨m, n, -, rfl⟩ := hx
  rfl

theorem not_failed_of_forall₂ {h : Heap} {c : ConnectionId} {subjects : List InstanceId}
    {written : List (EntityKey × InstanceId)} {keys : List EntityKey}
    {inserts updates deletes : List Exchange}
    (hinserts : List.Forall₂ (fun i x => x.Inserts S h c i) subjects inserts)
    (hupdates : List.Forall₂ (fun e x => x.Updates S h c e) written updates)
    (hdeletes : List.Forall₂ (fun k x => x.Deletes S c k) keys deletes) :
    ∀ x ∈ inserts ++ updates ++ deletes, x.failed = false := by
  simp only [List.mem_append, or_imp, forall_and]
  refine ⟨⟨?_, ?_⟩, ?_⟩
  · exact forall_mem_of_forall₂ hinserts fun _ _ hx => hx.not_failed
  · exact forall_mem_of_forall₂ hupdates fun _ _ hx => hx.not_failed
  · exact forall_mem_of_forall₂ hdeletes fun _ _ hx => hx.not_failed

end Exchange

/-- A write has ended in a failure: it was that of the only statement that was sent. -/
def Site.Fails (s t : Site (Recorded δ)) (e : Error) : Prop :=
  ∃ x : Exchange, x.EndsIn e ∧ s.Sends t [x]

namespace Gateway

variable [Database δ] {g : Gateway} {s t : Site (Recorded δ)} {e : Error}

/-- The insert of an instance that does not lack an identifier fails before anything was sent, or it has
sent its statement, which has failed. -/
theorem save_error {i : InstanceId} (hid : s.heap.id S i ≠ .ok .null)
    (h : (g.save S i).perform s = (.error e, t)) : t = s ∨ s.Fails t e := by
  cases saving_of_save h with
  | unsent => exact .inl rfl
  | @sent n outside answer r t hn _ hsettled =>
    have hassigned : n.id ≠ .null := fun hnull => hid (hnull ▸ (insertion_eq_ok.1 hn).2.1)
    cases hsettled with
    | failed cause => exact .inr ⟨_, .insert _ _ _ n.metadata cause, sent_sends ..⟩
    | miscounted hrows => exact .inr ⟨_, .insertCount _ _ _ n.metadata hrows, sent_sends ..⟩
    | ungenerated _ hnull | unfit _ hnull | unwritable _ hnull => exact absurd hnull hassigned

theorem update_error {k : EntityKey} {columns : List ColumnValue}
    (h : (g.update S k columns).perform s = (.error e, t)) :
    S.metadata k.entity = .error e ∧ t = s ∨ s.Fails t e := by
  unfold update at h
  split at h
  · cases h
  rcases Act.perform_bind_error.1 h with h | ⟨m, u, hu, h⟩
  · obtain ⟨hm, rfl⟩ := Prod.mk.inj h
    exact .inl ⟨hm, rfl⟩
  obtain ⟨-, rfl⟩ := Prod.mk.inj hu
  obtain ⟨cause, outside, rfl, rfl⟩ := send_error h
  exact .inr ⟨_, .update _ _ _ m k.id cause, sent_sends ..⟩

theorem deleteByKey_error {k : EntityKey} (h : (g.deleteByKey S k).perform s = (.error e, t)) :
    t = s ∨ s.Fails t e := by
  rcases Act.perform_bind_error.1 h with h | ⟨m, u, hu, h⟩
  · exact .inl (Prod.mk.inj h).2.symm
  obtain ⟨-, rfl⟩ := Prod.mk.inj hu
  obtain ⟨cause, outside, rfl, rfl⟩ := send_error h
  exact .inr ⟨_, .delete _ _ _ m k.id cause, sent_sends ..⟩

end Gateway

/-! ## Baselines that stay -/

namespace Context

variable {c c' c'' : Context} {h : Heap} {j k : EntityKey}

theorem Keeps.trans (hcc : Keeps c c' k) (hcc' : Keeps c' c'' k) : Keeps c c'' k :=
  ⟨hcc'.get?.trans hcc.get?, hcc'.columns.trans hcc.columns, hcc'.relations.trans hcc.relations⟩

theorem Keeps.differsFor {i : InstanceId} (hcc : Keeps c c' k) :
    c'.differsFor S h (k, i) = c.differsFor S h (k, i) := by
  simp only [Context.differsFor, hcc.columns, hcc.relations]

/-- To renew the baseline of a key leaves the other keys alone. -/
theorem keeps_refresh (hrefresh : c.refresh S h j = .ok c') (hjk : (j == k) = false) :
    Keeps c c' k := by
  rcases refresh_eq_ok hrefresh with ⟨-, rfl⟩ | ⟨_, _, _, -, -, -, rfl⟩
  · exact .refl _ _
  · exact keeps_setBaseline (by rw [hjk]; exact Bool.false_ne_true) ..

end Context

/-! ## Actions that fail -/

namespace Action

variable [Database δ] [Callbacks δ] {g : Gateway} {w v : Work (Recorded δ)} {e : Error}

theorem run_insert_error {entity : String} {i : InstanceId} (hid : w.site.heap.id S i ≠ .ok .null)
    (h : ((insert g entity i).run S).perform w = (.error e, v)) :
    v.session = w.session ∧ (v.site = w.site ∨ w.site.Fails v.site e) := by
  obtain ⟨he, rfl⟩ := Prod.mk.inj h
  exact ⟨rfl, Gateway.save_error hid (Prod.ext he rfl)⟩

theorem run_delete_error {k : EntityKey} (h : ((delete g k).run S).perform w = (.error e, v)) :
    v.session = w.session ∧ (v.site = w.site ∨ w.site.Fails v.site e) := by
  rcases Act.perform_bind_error.1 h with h | ⟨_, u, -, h⟩
  · obtain ⟨he, rfl⟩ := Prod.mk.inj h
    exact ⟨rfl, Gateway.deleteByKey_error (Prod.ext he rfl)⟩
  · cases h

/-- The update of an entry that can be read fails only with its statement. -/
theorem run_update_error {x : EntityKey × InstanceId} {columns : List ColumnValue}
    (hw : w.session.context.Sound S w.site.heap) (hx : x ∈ w.session.context.instances)
    (hcolumns : Session.updateColumns S w.site.heap x.2 = .ok columns)
    (h : ((update g x.1 columns).run S).perform w = (.error e, v)) :
    v.session = w.session ∧ w.site.Fails v.site e := by
  obtain ⟨current, hcurrent, hrelations⟩ := bind_eq_ok.1 hcolumns
  obtain ⟨relations, hrelations, -⟩ := bind_eq_ok.1 hrelations
  obtain ⟨m, hm, -⟩ := Heap.columnValues_eq_ok.1 hcurrent
  rw [(hw.entry x hx).typeOf] at hm
  rcases Act.perform_bind_error.1 h with h | ⟨n, u, hu, h⟩
  · obtain ⟨he, rfl⟩ := Prod.mk.inj h
    refine ⟨rfl, (Gateway.update_error (Prod.ext he rfl)).resolve_left ?_⟩
    rintro ⟨hnone, -⟩
    rw [hm] at hnone
    cases hnone
  · obtain ⟨t, ht, rfl⟩ := Work.perform_onSite_ok.1 hu
    obtain ⟨hrefresh, -⟩ := Work.of_modifyContext_error h
    -- sending changes no instance, so the baseline can be renewed once the statement has succeeded
    have hheap := Gateway.update_heap ht
    have hget : w.session.context.get? x.1 = some x.2 := hw.get?_of_mem hx BEq.rfl
    change w.session.context.refresh S t.heap x.1 = _ at hrefresh
    simp only [Context.refresh, hget, hheap, hcurrent, hrelations] at hrefresh
    cases hrefresh

/-- Updates leave the baselines of other keys alone. -/
theorem each_update_keeps {as : List Action} {es : List (EntityKey × InstanceId)} {j : EntityKey}
    (has : List.Forall₂ (fun a x => ∃ columns, a = .update g x.1 columns) as es)
    (hes : ∀ x ∈ es, (x.1 == j) = false) (h : (Act.each (run S) as).perform w = (.ok (), v)) :
    w.session.context.Keeps v.session.context j := by
  induction has generalizing w with
  | nil =>
    cases h
    exact .refl _ _
  | cons ha _ ih =>
    obtain ⟨columns, rfl⟩ := ha
    obtain ⟨hx, hes⟩ := List.forall_mem_cons.1 hes
    obtain ⟨_, u, hu, h⟩ := Act.perform_bind_ok.1 h
    obtain ⟨n, u', hu', hu⟩ := Act.perform_bind_ok.1 hu
    obtain ⟨t, -, rfl⟩ := Work.perform_onSite_ok.1 hu'
    obtain ⟨c, hc, rfl⟩ := Work.perform_modifyContext_ok.1 hu
    exact (Context.keeps_refresh hc hx).trans (ih hes h)

end Action

/-! ## What was run before the failure -/

namespace Session

/-- What a part of the run of a flush has done, none of which has failed: it has inserted some instances,
written some dirty entries and deleted some keys. -/
structure Ran (S : Schema) (w u : Work (Recorded δ)) (subjects : List InstanceId)
    (written : List (EntityKey × InstanceId)) (keys : List EntityKey) : Prop where
  sent : ∃ inserts updates deletes,
    List.Forall₂ (fun i x => x.Inserts S w.site.heap w.session.gateway.connection i) subjects inserts ∧
    List.Forall₂ (fun e x => x.Updates S w.site.heap w.session.gateway.connection e) written updates ∧
    List.Forall₂ (fun k x => x.Deletes S w.session.gateway.connection k) keys deletes ∧
    w.site.Sends u.site (inserts ++ updates ++ deletes)
  instances : u.session.context.instances = w.session.context.instances
  sound : u.session.context.Sound S u.site.heap
  /-- What was written is clean, and what was clean is so still. -/
  clean : ∀ e ∈ w.session.context.instances,
    e ∈ written ∨ w.session.context.differsFor S w.site.heap e = .ok false →
      u.session.context.differsFor S u.site.heap e = .ok false
  kept : ∀ k, (∀ e ∈ written, (e.1 == k) = false) → w.session.context.Keeps u.session.context k

theorem Ran.heap {w u : Work (Recorded δ)} {subjects : List InstanceId}
    {written : List (EntityKey × InstanceId)} {keys : List EntityKey}
    (h : Ran S w u subjects written keys) : u.site.heap = w.site.heap := by
  obtain ⟨_, _, _, -, -, -, hsends⟩ := h.sent
  exact hsends.heap

section

variable [Database δ] [Callbacks δ]

theorem ran_of_each {w u : Work (Recorded δ)} (hw : w.session.context.Sound S w.site.heap)
    {inserting updating deleting : List Action} {written : List (EntityKey × InstanceId)}
    (hinserting : ∀ a ∈ inserting, ∃ entity i, a = .insert w.session.gateway entity i ∧
      w.site.heap.id S i ≠ .ok .null)
    (hupdating : List.Forall₂ (fun a e => Action.IsUpdateOf S w e a) updating written)
    (hwritten : ∀ e ∈ written, e ∈ w.session.context.instances ∧
      w.session.context.differsFor S w.site.heap e = .ok true)
    (hdeleting : ∀ a ∈ deleting, ∃ k, a = .delete w.session.gateway k)
    (h : (Act.each (Action.run S) (inserting ++ (updating ++ deleting))).perform w = (.ok (), u)) :
    Ran S w u (inserting.filterMap Action.inserted?) written (deleting.filterMap Action.deleted?) ∧
      u.session = { w.session with context := u.session.context } := by
  obtain ⟨u₁, h₁, h⟩ := Act.perform_each_append_ok.1 h
  obtain ⟨u₂, h₂, h₃⟩ := Act.perform_each_append_ok.1 h
  obtain ⟨inserts, hinserts, hsends₁, hsession₁⟩ := Action.each_insert_ok hinserting h₁
  have hcontext : u₁.session.context = w.session.context := by rw [hsession₁]
  obtain ⟨updates, c, hupdates, hsends₂, hsession₂, hinstances, hsound, hclean⟩ :=
    Action.each_update_ok hsends₁.heap (by rwa [hcontext]) (by
      intro e he
      obtain ⟨hmem, hdiffers⟩ := hwritten e he
      exact ⟨hcontext ▸ hmem, fun _ hm => hw.columns_of_dirty hmem hdiffers hm⟩) hupdating h₂
  obtain ⟨deletes, hdeletes, hsends₃, hsession₃⟩ := Action.each_delete_ok hdeleting h₃
  have hsends := (hsends₁.trans hsends₂).trans hsends₃
  have hsession : u.session = { w.session with context := c } := by
    rw [hsession₃, hsession₂, hsession₁]
  obtain rfl : u.session.context = c := by rw [hsession]
  rw [hcontext] at hinstances hclean
  refine ⟨⟨⟨inserts, updates, deletes, hinserts, hupdates, hdeletes, hsends⟩, hinstances, ?_,
    fun e he => ?_, fun k hk => ?_⟩, hsession⟩
  · rw [hsends.heap]
    exact hsound
  · rw [hsends.heap]
    exact hclean e (hinstances ▸ he)
  · have hkeeps := Action.each_update_keeps
      (hupdating.imp fun a e ⟨columns, _, ha⟩ => ⟨columns, ha⟩) hk h₂
    rwa [hcontext, hsession₂] at hkeeps

/-! ## Where a flush stops -/

theorem drain_error {δ : Type} [Database δ] [Callbacks δ] {q : Queue} {w v : Work δ} {e : Error}
    (h : (drain S q).perform w = (.error e, v)) :
    ∃ order u choices, order.Perm q.pending ∧
      order.Pairwise (fun a b => a.priority ≤ b.priority) ∧
        (Act.each (Action.run S) order).perform w = (.error e, u) ∧
          v = { u with session := { u.session with choices } } := by
  rw [drain, Act.perform_of] at h
  rcases hd : q.drain (Action.run S) w.session.choices w with ⟨⟨r, u⟩, _, choices⟩
  rw [hd] at h
  obtain ⟨rfl, rfl⟩ := Prod.mk.inj h
  obtain ⟨order, hperm, hsorted, hrun⟩ := Queue.drain_error hd
  exact ⟨order, u, choices, hperm, hsorted, hrun, rfl⟩

/-- A flush that fails: the session is closed, or the search for changes has failed, or one of the actions
that were run in order. -/
theorem flush_error {δ : Type} [Database δ] [Callbacks δ] {w v : Work δ} {e : Error}
    (h : (flush S).perform w = (.error e, v)) :
    w.session.isOpen = false ∧ v = w ∨ (scheduleUpdates S).perform w = (.error e, v) ∨
      w.session.isOpen = true ∧ ∃ tracked dirty updates order u choices choices',
        tracked.Perm w.session.context.instances ∧
        w.session.context.dirtyAmong S w.site.heap tracked = .ok dirty ∧
        List.Forall₂ (Action.IsUpdateOf S w) dirty updates ∧
        order.Perm (w.session.queue.pending ++ updates) ∧
        order.Pairwise (fun a b => a.priority ≤ b.priority) ∧
        (Act.each (Action.run S) order).perform
          { w with session := { w.session with choices, queue := .empty } } = (.error e, u) ∧
        v = { u with session := { u.session with choices := choices' } } := by
  rcases Act.perform_bind_error.1 h with h | ⟨_, u, hu, h⟩
  · exact .inl (ensureOpen_error h)
  obtain ⟨hopen, rfl⟩ := ensureOpen_ok hu
  rcases Act.perform_bind_error.1 h with h | ⟨_, u', hu', h⟩
  · exact .inr (.inl h)
  obtain ⟨tracked, dirty, updates, choices, htracked, hdirty, hupdates, rfl⟩ := scheduleUpdates_ok hu'
  rcases Act.perform_bind_error.1 h with h | ⟨q, u', hu', h⟩
  · cases h
  cases hu'
  rcases Act.perform_bind_error.1 h with h | ⟨_, u', -, h⟩
  · obtain ⟨order, u, choices', hperm, hsorted, hrun, rfl⟩ := drain_error h
    exact .inr (.inr ⟨hopen, tracked, dirty, updates, order, u, choices, choices', htracked, hdirty,
      hupdates, hperm, hsorted, hrun, rfl⟩)
  · cases h

/-- How far a flush has come that one of its actions has stopped: it has written some of the dirty
entries, and not come to the others. -/
structure Halted (S : Schema) (w v : Work (Recorded δ)) (e : Error)
    (written left : List (EntityKey × InstanceId)) : Prop where
  entries : (written ++ left).Perm (w.session.context.dirtyEntries S w.site.heap)
  scanned : ∀ x ∈ w.session.context.instances,
    w.session.context.differsFor S w.site.heap x = .ok true ∨
      w.session.context.differsFor S w.site.heap x = .ok false
  readable : ∀ x ∈ left, ∃ columns, updateColumns S w.site.heap x.2 = .ok columns
  /-- The inserts and deletes that were run are some of those that waited. -/
  ran : ∃ subjects keys lost kept u,
    (subjects ++ lost).Perm (w.session.queue.pending.filterMap Action.inserted?) ∧
    (keys ++ kept).Perm (w.session.queue.pending.filterMap Action.deleted?) ∧
    Ran S w u subjects written keys ∧ v.session.context = u.session.context ∧
    -- only what waited can stop it without a statement that has failed
    (u.site.Fails v.site e ∨ v.site = u.site ∧ w.session.queue.pending ≠ [])
  session : v.session = { w.session with
    context := v.session.context, queue := .empty, choices := v.session.choices }

/-- The action that has stopped a flush has changed nothing of the session.  Unless it was one of those
that waited, its statement was sent and has failed. -/
theorem run_error {w t v : Work (Recorded δ)} {a : Action} {e : Error} (hw : Sound S w)
    (hqueue : ∀ a ∈ w.session.queue.pending, a.isUpdate = false)
    (hid : ∀ g entity i, .insert g entity i ∈ w.session.queue.pending →
      w.site.heap.id S i ≠ .ok .null)
    (ha : a ∈ w.session.queue.pending ∨
      ∃ x ∈ w.session.context.instances, Action.IsUpdateOf S w x a)
    (hsound : t.session.context.Sound S t.site.heap) (hheap : t.site.heap = w.site.heap)
    (hinstances : t.session.context.instances = w.session.context.instances)
    (h : (a.run S).perform t = (.error e, v)) :
    v.session = t.session ∧ (t.site.Fails v.site e ∨
      v.site = t.site ∧ w.session.queue.pending ≠ []) := by
  rcases ha with ha | ⟨x, hx, columns, hcolumns, rfl⟩
  · have hne := List.ne_nil_of_mem ha
    cases a with
    | insert g entity i =>
      obtain ⟨hsession, hfails⟩ := Action.run_insert_error (hheap ▸ hid g entity i ha) h
      exact ⟨hsession, hfails.symm.imp_right fun hsite => ⟨hsite, hne⟩⟩
    | update g k columns => cases hqueue _ ha
    | delete g k =>
      obtain ⟨hsession, hfails⟩ := Action.run_delete_error h
      exact ⟨hsession, hfails.symm.imp_right fun hsite => ⟨hsite, hne⟩⟩
    | outside number name priority => cases hw.queued _ ha
  · obtain ⟨hsession, hfails⟩ := Action.run_update_error hsound (hinstances ▸ hx)
      (by rw [hheap]; exact hcolumns) h
    exact ⟨hsession, .inl hfails⟩

/-- A flush that was stopped by one of its actions. -/
theorem halted_of_each {w u : Work (Recorded δ)} {e : Error} (hw : Sound S w)
    (hqueue : ∀ a ∈ w.session.queue.pending, a.isUpdate = false)
    (hid : ∀ g entity i, .insert g entity i ∈ w.session.queue.pending →
      w.site.heap.id S i ≠ .ok .null)
    {tracked dirty : List (EntityKey × InstanceId)} {queued order : List Action}
    {choices choices' : Choices} (htracked : tracked.Perm w.session.context.instances)
    (hdirty : w.session.context.dirtyAmong S w.site.heap tracked = .ok dirty)
    (hqueued : List.Forall₂ (Action.IsUpdateOf S w) dirty queued)
    (horder : order.Perm (w.session.queue.pending ++ queued))
    (hsorted : order.Pairwise fun a b => a.priority ≤ b.priority)
    (h : (Act.each (Action.run S) order).perform
      { w with session := { w.session with choices, queue := .empty } } = (.error e, u)) :
    ∃ written left, Halted S w { u with session := { u.session with choices := choices' } } e
      written left := by
  obtain ⟨done, a, rest, t, rfl, hdone, ha⟩ := Act.perform_each_error h
  obtain ⟨hentries, hscan⟩ := hw.context.dirtyAmong_perm htracked hdirty
  have hupdate : ∀ a ∈ queued, ∃ x ∈ dirty, Action.IsUpdateOf S w x a := fun a ha => by
    obtain ⟨x, hx, hxa⟩ := exists_mem_zip_of_forall₂ hqueued.flip ha
    exact ⟨x, (List.of_mem_zip hx).2, hxa⟩
  obtain ⟨inserting, updating, deleting, rfl, hinserting, hupdating, hdeleting, hsubjects, hkeys⟩ :=
    exists_parts_of_append hw hqueue (fun a ha => by
      obtain ⟨x, -, columns, -, rfl⟩ := hupdate a ha
      exact ⟨_, _, rfl⟩) horder hsorted
  -- the dirty entries fall into those whose updates were run and the others
  obtain ⟨written, left, hsplit, hwritten, hleft⟩ := exists_append_of_perm hqueued hupdating
  have hmem : ∀ x ∈ dirty, x ∈ w.session.context.instances ∧
      w.session.context.differsFor S w.site.heap x = .ok true := fun x hx =>
    hw.context.mem_dirtyEntries.1 (hentries.mem_iff.1 hx)
  obtain ⟨hran, hsession⟩ := ran_of_each
    (w := { w with session := { w.session with choices, queue := .empty } }) hw.context (fun a ha => by
      obtain ⟨entity, i, rfl, hmem⟩ := hinserting a ha
      exact ⟨entity, i, rfl, hid _ _ _ hmem⟩) hwritten.flip
    (fun x hx => hmem x (hsplit.mem_iff.1 (List.mem_append_left left hx))) hdeleting hdone
  have horigin : a ∈ w.session.queue.pending ∨
      ∃ x ∈ w.session.context.instances, Action.IsUpdateOf S w x a := by
    refine (List.mem_append.1 (horder.mem_iff.1 (List.mem_append_right _ List.mem_cons_self))).imp_right
      fun ha => ?_
    obtain ⟨x, hx, hxa⟩ := hupdate a ha
    exact ⟨x, (hmem x hx).1, hxa⟩
  obtain ⟨hstopped, hfails⟩ :=
    run_error hw hqueue hid horigin hran.sound hran.heap hran.instances ha
  have hsession' : u.session = { w.session with
      context := u.session.context, queue := .empty, choices } := by
    rw [hstopped, hsession]
  refine ⟨written, left, hsplit.trans hentries, fun x hx => (hscan x hx).imp_left And.left, fun x hx => ?_,
    ⟨_, _, _, _, t, hsubjects, hkeys,
      ⟨hran.sent, hran.instances, hran.sound, hran.clean, hran.kept⟩, by rw [hstopped], hfails⟩, ?_⟩
  · obtain ⟨a', -, columns, hcolumns, -⟩ := exists_mem_zip_of_forall₂ hleft hx
    exact ⟨columns, hcolumns⟩
  · change ({ u.session with choices := choices' } : Session) = _
    rw [hsession']

end

/-! ## What is dirty after that -/

namespace Halted

variable {w v : Work (Recorded δ)} {e : Error} {written left : List (EntityKey × InstanceId)}

theorem heap (h : Halted S w v e written left) : v.site.heap = w.site.heap := by
  obtain ⟨_, _, _, _, u, -, -, hran, -, ⟨_, -, hsends⟩ | ⟨hsite, -⟩⟩ := h.ran
  · rw [hsends.heap, hran.heap]
  · rw [hsite, hran.heap]

theorem instances (h : Halted S w v e written left) :
    v.session.context.instances = w.session.context.instances := by
  obtain ⟨_, _, _, _, u, -, -, hran, hcontext, -⟩ := h.ran
  rw [hcontext, hran.instances]

theorem sound (h : Halted S w v e written left) : v.session.context.Sound S v.site.heap := by
  obtain ⟨_, _, _, _, u, -, -, hran, hcontext, -⟩ := h.ran
  rw [hcontext, h.heap, ← hran.heap]
  exact hran.sound

/-- What the flush has not come to is still dirty. -/
theorem differsFor_of_left (hw : w.session.context.Sound S w.site.heap)
    (h : Halted S w v e written left) {x : EntityKey × InstanceId} (hx : x ∈ left) :
    x ∈ v.session.context.instances ∧ v.session.context.differsFor S v.site.heap x = .ok true := by
  have hdistinct : KeyMap.Distinct (written ++ left) := hw.distinct_dirtyEntries.perm h.entries
  have hothers : ∀ d ∈ written, (d.1 == x.1) = false := fun d hd =>
    (List.pairwise_append.1 hdistinct).2.2 d hd x hx
  obtain ⟨hmem, hdiffers⟩ :=
    hw.mem_dirtyEntries.1 (h.entries.mem_iff.1 (List.mem_append_right written hx))
  obtain ⟨_, _, _, _, u, -, -, hran, hcontext, -⟩ := h.ran
  refine ⟨h.instances ▸ hmem, ?_⟩
  rw [hcontext, h.heap, (hran.kept x.1 hothers).differsFor]
  exact hdiffers

/-- Everything else is clean. -/
theorem differsFor_of_not_left (hw : w.session.context.Sound S w.site.heap)
    (h : Halted S w v e written left) {x : EntityKey × InstanceId}
    (hx : x ∈ v.session.context.instances) (hleft : x ∉ left) :
    v.session.context.differsFor S v.site.heap x = .ok false := by
  rw [h.instances] at hx
  have hwritten : x ∈ written ∨ w.session.context.differsFor S w.site.heap x = .ok false := by
    refine (h.scanned x hx).imp_left fun hdirty => ?_
    have hmem := h.entries.mem_iff.2 (hw.mem_dirtyEntries.2 ⟨hx, hdirty⟩)
    exact (List.mem_append.1 hmem).resolve_right hleft
  obtain ⟨_, _, _, _, u, -, -, hran, hcontext, -⟩ := h.ran
  rw [hcontext, h.heap, ← hran.heap]
  exact hran.clean x hx hwritten

/-- The keys of the entries that the flush has not come to are dirty, and no others. -/
theorem isDirty (hw : w.session.context.Sound S w.site.heap) (h : Halted S w v e written left)
    (k : EntityKey) : v.session.context.isDirty S v.site.heap k = .ok (KeyMap.contains left k) := by
  by_cases hk : KeyMap.contains left k = true
  · obtain ⟨x, hx, hxk⟩ := List.any_eq_true.1 hk
    obtain ⟨hmem, hdiffers⟩ := h.differsFor_of_left hw hx
    rw [← Context.isDirty_congr hxk, h.sound.isDirty_of_mem hmem, hdiffers, hk]
  · rw [Bool.eq_false_iff.2 hk]
    cases hi : v.session.context.get? k with
    | none => rw [Context.isDirty, hi]
    | some i =>
      obtain ⟨x, hx, hxk, rfl⟩ := KeyMap.mem_of_get? hi
      rw [← Context.isDirty_congr hxk, h.sound.isDirty_of_mem hx]
      exact h.differsFor_of_not_left hw hx fun hleft => hk (List.any_eq_true.2 ⟨x, hleft, hxk⟩)

/-- A key that was dirty is clean exactly if its update was run. -/
theorem isDirty_eq_false_iff (hw : w.session.context.Sound S w.site.heap)
    (h : Halted S w v e written left) {k : EntityKey}
    (hk : w.session.context.isDirty S w.site.heap k = .ok true) :
    v.session.context.isDirty S v.site.heap k = .ok false ↔ KeyMap.contains written k = true := by
  constructor
  · intro hclean
    rw [h.isDirty hw, Except.ok.injEq] at hclean
    obtain ⟨x, hx, hxk⟩ := hw.mem_dirtyEntries_of_isDirty hk
    rcases List.mem_append.1 (h.entries.mem_iff.2 hx) with hx | hx
    · exact List.any_eq_true.2 ⟨x, hx, hxk⟩
    · rw [KeyMap.contains_eq_false.1 hclean x hx] at hxk
      cases hxk
  · intro hwritten
    obtain ⟨x, hx, hxk⟩ := List.any_eq_true.1 hwritten
    obtain ⟨hmem, -⟩ := hw.mem_dirtyEntries.1 (h.entries.mem_iff.1 (List.mem_append_left left hx))
    obtain ⟨_, _, _, _, u, -, -, hran, hcontext, -⟩ := h.ran
    rw [← Context.isDirty_congr hxk, h.sound.isDirty_of_mem (h.instances ▸ hmem), hcontext, h.heap,
      ← hran.heap]
    exact hran.clean x hmem (.inl hx)

/-- The entries that the flush has not come to are those that are dirty afterwards. -/
theorem dirtyEntries (hw : w.session.context.Sound S w.site.heap) (h : Halted S w v e written left) :
    left.Perm (v.session.context.dirtyEntries S v.site.heap) := by
  have hleft : left.Nodup :=
    (List.nodup_append.1 (hw.distinct_dirtyEntries.perm h.entries).nodup).2.1
  refine (List.perm_ext_iff_of_nodup hleft h.sound.distinct_dirtyEntries.nodup).2 fun x => ?_
  rw [h.sound.mem_dirtyEntries]
  constructor
  · exact h.differsFor_of_left hw
  · rintro ⟨hx, hdiffers⟩
    by_contra hnot
    rw [h.differsFor_of_not_left hw hx hnot] at hdiffers
    cases hdiffers

end Halted

/-! ## The whole -/

theorem sentBetween_eq {w v : Work (Recorded δ)} {xs : List Exchange}
    (h : v.site.outside.exchanges = w.site.outside.exchanges ++ xs) : sentBetween w v = xs := by
  rw [sentBetween, h, List.drop_left]

theorem Ran.not_failed {w u : Work (Recorded δ)} {subjects : List InstanceId}
    {written : List (EntityKey × InstanceId)} {keys : List EntityKey}
    (h : Ran S w u subjects written keys) : ∀ x ∈ sentBetween w u, x.failed = false := by
  obtain ⟨inserts, updates, deletes, hinserts, hupdates, hdeletes, hsends⟩ := h.sent
  rw [sentBetween_eq hsends.exchanges]
  exact Exchange.not_failed_of_forall₂ hinserts hupdates hdeletes

theorem Flushed.not_failed {w v : Work (Recorded δ)} (h : Flushed S w v) :
    ∀ x ∈ sentBetween w v, x.failed = false := by
  obtain ⟨_, _, _, inserts, updates, deletes, -, -, -, hinserts, hupdates, hdeletes, hsent⟩ := h.sent
  rw [sentBetween_eq hsent]
  exact Exchange.not_failed_of_forall₂ hinserts hupdates hdeletes

variable [Database δ] [Callbacks δ]

/-- A flush that fails is closed, or could not find out what to update, or was halted. -/
theorem flush_halted {w v : Work (Recorded δ)} {e : Error} (hw : Sound S w)
    (hqueue : ∀ a ∈ w.session.queue.pending, a.isUpdate = false)
    (hid : ∀ g entity i, .insert g entity i ∈ w.session.queue.pending →
      w.site.heap.id S i ≠ .ok .null)
    (h : (flush S).perform w = (.error e, v)) :
    w.session.isOpen = false ∧ v = w ∨ (scheduleUpdates S).perform w = (.error e, v) ∨
      w.session.isOpen = true ∧ ∃ written left, Halted S w v e written left := by
  rcases flush_error h with h | h | ⟨hopen, tracked, dirty, updates, order, u, choices, choices',
    htracked, hdirty, hupdates, horder, hsorted, hrun, rfl⟩
  · exact .inl h
  · exact .inr (.inl h)
  · exact .inr (.inr ⟨hopen,
      halted_of_each hw hqueue hid htracked hdirty hupdates horder hsorted hrun⟩)

/-- If nothing waits and all that is dirty can be read, only a statement can make a flush fail. -/
theorem flush_of_not_failed {w v : Work (Recorded δ)} {r : Except Error Unit} (hw : Sound S w)
    (hopen : w.session.isOpen = true) (hqueue : w.session.queue.pending = [])
    (hscan : ∀ x ∈ w.session.context.instances, ∃ d,
      w.session.context.differsFor S w.site.heap x = .ok d)
    (hread : ∀ x ∈ w.session.context.dirtyEntries S w.site.heap,
      ∃ columns, updateColumns S w.site.heap x.2 = .ok columns)
    (h : (flush S).perform w = (r, v)) (hnone : ∀ x ∈ sentBetween w v, x.failed = false) :
    r = .ok () := by
  cases r with
  | ok => rfl
  | error e =>
    exfalso
    rcases flush_halted hw (by simp [hqueue]) (by simp [hqueue]) h with
      ⟨hclosed, -⟩ | hscheduled | ⟨-, written, left, hhalted⟩
    · rw [hopen] at hclosed
      cases hclosed
    · obtain ⟨tracked, _, htracked, ⟨hfail, -⟩ | ⟨first, x, rest, _, hdirty, -, hx, -⟩⟩ :=
        scheduleUpdates_error hscheduled
      · obtain ⟨dirty, hdirty⟩ := Context.dirtyAmong_of_forall fun x hx =>
          hscan x (htracked.mem_iff.1 hx)
        rw [hfail] at hdirty
        cases hdirty
      · obtain ⟨hentries, -⟩ := hw.context.dirtyAmong_perm htracked hdirty
        obtain ⟨columns, hcolumns⟩ := hread x
          (hentries.mem_iff.1 (List.mem_append_right first List.mem_cons_self))
        rw [hcolumns] at hx
        cases hx
    · obtain ⟨_, _, _, _, u, -, -, hran, -, ⟨x, hx, hsends⟩ | ⟨-, hne⟩⟩ := hhalted.ran
      · obtain ⟨_, _, _, -, -, -, hsent⟩ := hran.sent
        have hexchanges := (hsent.trans hsends).exchanges
        have hfailed := hnone x (by
          rw [sentBetween_eq hexchanges]
          exact List.mem_append_right _ (List.mem_singleton_self x))
        rw [hx.failed] at hfailed
        cases hfailed
      · exact hne hqueue

/-- What a flush leaves that was interrupted by a statement that has failed: of the entries that were
dirty, some were written, and the others are left for the next flush. -/
structure Interrupted (S : Schema) (w v : Work (Recorded δ)) (e : Error)
    (written left : List (EntityKey × InstanceId)) : Prop where
  entries : (written ++ left).Perm (w.session.context.dirtyEntries S w.site.heap)
  /-- All statements but the last have succeeded: inserts and deletes of those that waited, and an update
  of each entry that was written.  The flush ends in the failure of the last one. -/
  sent : ∃ subjects lost keys kept inserts updates deletes last,
    (subjects ++ lost).Perm (w.session.queue.pending.filterMap Action.inserted?) ∧
    (keys ++ kept).Perm (w.session.queue.pending.filterMap Action.deleted?) ∧
    List.Forall₂ (fun i x => x.Inserts S w.site.heap w.session.gateway.connection i) subjects inserts ∧
    List.Forall₂ (fun e x => x.Updates S w.site.heap w.session.gateway.connection e) written updates ∧
    List.Forall₂ (fun k x => x.Deletes S w.session.gateway.connection k) keys deletes ∧
    last.EndsIn e ∧
    v.site.outside.exchanges =
      w.site.outside.exchanges ++ (inserts ++ updates ++ deletes ++ [last])
  queue : v.session.queue.pending = []
  /-- A key that was dirty is clean exactly if its update has succeeded. -/
  written : ∀ k, w.session.context.isDirty S w.site.heap k = .ok true →
    (v.session.context.isDirty S v.site.heap k = .ok false ↔ KeyMap.contains written k = true)
  /-- What is dirty are the keys of the other entries, and these only. -/
  dirty : ∀ k, v.session.context.isDirty S v.site.heap k = .ok (KeyMap.contains left k)
  /-- If the instances stay as they are, the next flush, unless one of its statements fails, sends an
  update of each of those entries and nothing else. -/
  next : ∀ (outside : Recorded δ) (r : Except Error Unit) (u : Work (Recorded δ)),
    (flush S).perform { v with site := { v.site with outside } } = (r, u) →
    (∀ x ∈ sentBetween { v with site := { v.site with outside } } u, x.failed = false) →
    r = .ok () ∧ ∃ entries updates, entries.Perm left ∧
      List.Forall₂ (fun e x => x.Updates S v.site.heap v.session.gateway.connection e) entries updates ∧
      u.site.outside.exchanges = outside.exchanges ++ updates

/-- The flush after one that was halted. -/
theorem Halted.flush_next {w v : Work (Recorded δ)} {e : Error}
    {written left : List (EntityKey × InstanceId)} (hw : Reachable S w)
    (hopen : w.session.isOpen = true) (h : (flush S).perform w = (.error e, v))
    (hhalted : Halted S w v e written left) {outside : Recorded δ} {r : Except Error Unit}
    {u : Work (Recorded δ)}
    (hnext : (flush S).perform { v with site := { v.site with outside } } = (r, u))
    (hnone : ∀ x ∈ sentBetween { v with site := { v.site with outside } } u, x.failed = false) :
    r = .ok () ∧ ∃ entries updates, entries.Perm left ∧
      List.Forall₂ (fun e x => x.Updates S v.site.heap v.session.gateway.connection e) entries updates ∧
      u.site.outside.exchanges = outside.exchanges ++ updates := by
  let v' : Work (Recorded δ) := { v with site := { v.site with outside } }
  have hv' : Reachable S v' := by
    have hv := hw.call .flush
    rw [Call.act, Act.perform_map, h] at hv
    exact hv.step (.elsewhere v.session.choices v.session.isHeld v.session.transaction (.refl _))
  have hsession := hhalted.session
  have hvopen : v.session.isOpen = true := by rw [hsession]; exact hopen
  have hqueue : v.session.queue.pending = [] := by rw [hsession]; rfl
  have hdirty := hhalted.dirtyEntries hw.sound.context
  obtain rfl : r = .ok () := by
    refine flush_of_not_failed hv'.sound hvopen hqueue (fun x hx => ?_) (fun x hx => ?_) hnext hnone
    · by_cases hleft : x ∈ left
      · exact ⟨true, (hhalted.differsFor_of_left hw.sound.context hleft).2⟩
      · exact ⟨false, hhalted.differsFor_of_not_left hw.sound.context hx hleft⟩
    · obtain ⟨columns, hcolumns⟩ := hhalted.readable x (hdirty.mem_iff.2 hx)
      exact ⟨columns, hhalted.heap ▸ hcolumns⟩
  obtain ⟨subjects, entries, keys, inserts, updates, deletes, hsubjects, hentries, hkeys, hinserts,
    hupdates, hdeletes, hsent⟩ :=
      (hv'.flushed (by simp [v', hqueue]) (by simp [v', hqueue]) hnext).sent
  have hwaiting : v'.session.queue.pending = [] := hqueue
  rw [hwaiting, List.filterMap_nil, List.perm_nil] at hsubjects hkeys
  subst hsubjects hkeys
  cases hinserts
  cases hdeletes
  rw [List.nil_append, List.append_nil] at hsent
  exact ⟨rfl, entries, updates, hentries.trans hdirty.symm, hupdates, hsent⟩

/-- A flush one of whose statements fails, whichever it is, ends in this failure and loses no update. -/
theorem Reachable.interrupted {w v : Work (Recorded δ)} {r : Except Error Unit} (hw : Reachable S w)
    (hqueue : ∀ a ∈ w.session.queue.pending, a.isUpdate = false)
    (hid : ∀ g entity i, .insert g entity i ∈ w.session.queue.pending →
      w.site.heap.id S i ≠ .ok .null)
    (h : (flush S).perform w = (r, v)) (hfailed : ∃ x ∈ sentBetween w v, x.failed = true) :
    ∃ e written left, r = .error e ∧ Interrupted S w v e written left := by
  obtain ⟨x, hx, hfailed⟩ := hfailed
  have habsurd {P : Prop} (hnone : ∀ x ∈ sentBetween w v, x.failed = false) : P := by
    rw [hnone x hx] at hfailed
    cases hfailed
  have hunsent {P : Prop} (hsite : v.site = w.site) : P := by
    have hsent : v.site.outside.exchanges = w.site.outside.exchanges ++ [] := by
      rw [hsite, List.append_nil]
    exact habsurd (by simp [sentBetween_eq hsent])
  cases r with
  | ok => exact habsurd (hw.flushed hqueue hid h).not_failed
  | error e =>
    rcases flush_halted hw.sound hqueue hid h with
      ⟨-, rfl⟩ | hscheduled | ⟨hopen, written, left, hhalted⟩
    · exact hunsent rfl
    · have hqueues := scheduleUpdates_queues (S := S) w
      rw [hscheduled] at hqueues
      exact hunsent hqueues.site
    · obtain ⟨subjects, keys, lost, kept, u, hsubjects, hkeys, hran, -, hstop⟩ := hhalted.ran
      rcases hstop with ⟨last, hlast, hsends⟩ | ⟨hsite, -⟩
      · obtain ⟨inserts, updates, deletes, hinserts, hupdates, hdeletes, hsent⟩ := hran.sent
        refine ⟨e, written, left, rfl,
          { entries := hhalted.entries
            sent := ⟨subjects, lost, keys, kept, inserts, updates, deletes, last, hsubjects, hkeys,
              hinserts, hupdates, hdeletes, hlast, (hsent.trans hsends).exchanges⟩
            queue := by rw [hhalted.session]; rfl
            written := fun k => hhalted.isDirty_eq_false_iff hw.sound.context
            dirty := hhalted.isDirty hw.sound.context
            next := fun outside r u => hhalted.flush_next hw hopen h }⟩
      · have hnone := hran.not_failed
        rw [sentBetween, ← hsite] at hnone
        exact habsurd hnone

end Session

/-! ### A pet that is refused -/

namespace Pets

/-- Two pets and an owner are in the database.  The owner and the second pet get other names, and the first
pet waits to be deleted. -/
def moving : Work (Recorded Rehearsal.Scene) :=
  let stored := after .flush (after (.persist 2) (after (.persist 1) (after (.persist 0)
    (kennel (.bigInt 7)))))
  let renamed := hold 2 ⟨[("id", .bigInt 7), ("name", .text "Eve")], []⟩
    (hold 1 (petRecord 2 "Tam" (.loaded 2)) stored)
  after (.delete 0) renamed

/-- The connection fails on updates of pets. -/
def refusing : Work (Recorded Rehearsal.Scene) :=
  let connection := { Rehearsal.ScriptedConnection.start "pets" with failOn := some "UPDATE Pet" }
  let scene := { moving.site.outside.outside with connections := #[.scripted connection] }
  { moving with site := { moving.site with outside := ⟨scene, moving.site.outside.exchanges⟩ } }

theorem reachable_refusing : Session.Reachable schema refusing := by
  have hstored := ((((reachable_kennel (.bigInt 7)).call (.persist 0)).call (.persist 1)).call
    (.persist 2)).call .flush
  have hmoving : Session.Reachable schema moving :=
    (reachable_hold (reachable_hold hstored 1 (petRecord 2 "Tam" (.loaded 2))) 2
      ⟨[("id", .bigInt 7), ("name", .text "Eve")], []⟩).call (.delete 0)
  exact hmoving.step (.elsewhere _ _ _ (.refl _))

/-- Whether a key is dirty. -/
def dirty? (entity : String) (n : Int64) (w : Work (Recorded Rehearsal.Scene)) : Option Bool :=
  (w.session.context.isDirty schema w.site.heap ⟨entity, .bigInt n⟩).toOption

/-- The owner is written, the pet is left, and the delete is not sent. -/
theorem interrupted_refusing :
    (∃ e written left, ((Session.flush schema).perform refusing).1 = .error e ∧
      Session.Interrupted schema refusing ((Session.flush schema).perform refusing).2 e written left) ∧
    sent (after .flush refusing) = sent refusing ++
      [[.text "Eve", .bigInt 7], [.text "Tam", .bigInt 7, .bigInt 2]] ∧
    dirty? "Owner" 7 (after .flush refusing) = some false ∧
    dirty? "Pet" 2 (after .flush refusing) = some true := by
  refine ⟨?_, by decide +kernel, by decide +kernel, by decide +kernel⟩
  refine Session.Reachable.interrupted reachable_refusing ?_ ?_ rfl ?_
  · have h : (refusing.session.queue.pending.all fun a => !a.isUpdate) = true := by decide +kernel
    simpa using h
  · have h : (refusing.session.queue.pending.all fun a => a.inserted?.isNone) = true := by
      decide +kernel
    intro g entity i hi
    cases List.all_eq_true.1 h _ hi
  · have h : (sentBetween refusing ((Session.flush schema).perform refusing).2).any Exchange.failed =
        true := by decide +kernel
    exact List.any_eq_true.1 h

end Pets

end EntitySession
