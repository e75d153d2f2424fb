import EntitySession.Proofs.Flush

/-!
# What is said over connections

`Overheard δ` is an outside `δ` together with everything that was said over its connections, in order:
statements, and also what governs the connection itself, transactions and closing.  How it was answered
is not kept; to everybody who talks to it, it behaves like `δ`.

What a session says when it is called can be told from what it says to find, to insert, to update and to
delete (`Session.Allowed`): if all of this has some property, then everything that it says has it, and what
it puts into its queue will be said in due course (`Session.act_utters`).

In particular, finding and loading, making persistent, deleting and flushing say nothing but statements
(`Session.act_speaks`).  Closing is the one call that says something else.
-/

set_option autoImplicit false

namespace EntitySession

/-- A call of a connection. -/
inductive Utterance where
  | query (connection : ConnectionId) (sql : String) (values : List Value)
  | execute (connection : ConnectionId) (sql : String) (values : List Value)
  | insert (connection : ConnectionId) (sql : String) (values : List Value)
  | setAutoCommit (connection : ConnectionId) (on : Bool)
  | commit (connection : ConnectionId)
  | rollback (connection : ConnectionId)
  | close (connection : ConnectionId)

/-- Whether it sends a statement. -/
def Utterance.IsStatement : Utterance → Prop
  | query _ _ _ | execute _ _ _ | insert _ _ _ => True
  | _ => False

/-- An outside, and what was said over its connections, the latest last. -/
structure Overheard (δ : Type) where
  outside : δ
  said : List Utterance

namespace Overheard

variable {δ α : Type}

/-- Makes a call of the outside and keeps what was said. -/
def forward (us : List Utterance) (f : δ → Except Error α × δ) (d : Overheard δ) :
    Except Error α × Overheard δ :=
  ((f d.outside).1, ⟨(f d.outside).2, d.said ++ us⟩)

instance [Database δ] : Database (Overheard δ) where
  query c sql values := forward [.query c sql values] (Database.query c sql values)
  execute c sql values := forward [.execute c sql values] (Database.execute c sql values)
  insert c sql values := forward [.insert c sql values] (Database.insert c sql values)
  setAutoCommit c on := forward [.setAutoCommit c on] (Database.setAutoCommit c on)
  commit c := forward [.commit c] (Database.commit c)
  rollback c := forward [.rollback c] (Database.rollback c)
  close c := forward [.close c] (Database.close c)

instance [Callbacks δ] : Callbacks (Overheard δ) where
  loadOne target id := forward [] (Callbacks.loadOne target id)
  loadMany q := forward [] (Callbacks.loadMany q)
  supply number := forward [] (Callbacks.supply number)
  performAction number := forward [] (Callbacks.performAction number)

end Overheard

variable {δ α : Type}

/-! ## Sites -/

namespace Site

variable {P : Utterance → Prop}

/-- Nothing was said but utterances of a kind. -/
def Says (P : Utterance → Prop) (s t : Site (Overheard δ)) : Prop :=
  ∃ us : List Utterance, t.outside.said = s.outside.said ++ us ∧ ∀ u ∈ us, P u

namespace Says

variable {s t r : Site (Overheard δ)}

/-- Nothing was said at all. -/
theorem of_said (h : t.outside.said = s.outside.said) : Says P s t :=
  ⟨[], by rw [h, List.append_nil], nofun⟩

theorem refl (s : Site (Overheard δ)) : Says P s s := of_said rfl

theorem trans (h : Says P s t) (h' : Says P t r) : Says P s r := by
  obtain ⟨us, hus, hall⟩ := h
  obtain ⟨us', hus', hall'⟩ := h'
  refine ⟨us ++ us', by rw [hus', hus, List.append_assoc], fun u hu => ?_⟩
  exact (List.mem_append.1 hu).elim (hall u) (hall' u)

/-- Who goes by utterances has made them. -/
theorem of_via {x : Act (Site (Overheard δ)) α} (h : x.Via (Says P) s) : Says P s (x.perform s).2 :=
  h.invariant (P := Says P s) (fun _ _ hstep hs => hs.trans hstep) (.refl s)

end Says

/-- Nothing was said but statements. -/
def Speaks (s t : Site (Overheard δ)) : Prop :=
  ∃ us : List Utterance, t.outside.said = s.outside.said ++ us ∧ ∀ u ∈ us, u.IsStatement

theorem Speaks.refl (s : Site (Overheard δ)) : Speaks s s := Says.refl s

theorem change_utters (f : Heap → Except Error (α × Heap)) (s : Site (Overheard δ)) :
    (change f).Via (Says P) s :=
  change_via s fun _ _ _ => .of_said rfl

end Site

namespace Gateway

variable {S : Schema} {loader : Loader} {P : Utterance → Prop}

theorem send_utters (g : Gateway) (sql : String) (f : Fault) {u : Utterance}
    (run : δ → Except Error α × δ) (s : Site (Overheard δ)) (hu : P u) :
    (g.send sql f (Overheard.forward [u] run)).Via (Site.Says P) s :=
  .bind (.of (.of_said rfl)) fun _ _ _ =>
    .blaming _ (.of ⟨[u], rfl, List.forall_mem_singleton.2 hu⟩)

theorem hydrateAll_utters (entity : String) (rows : List Row) (s : Site (Overheard δ)) :
    (hydrateAll S loader entity rows).Via (Site.Says P) s := by
  induction rows generalizing s with
  | nil => exact .pure _
  | cons row rest ih =>
    refine .bind (Site.change_utters _ s) fun _ t _ => ?_
    exact .bind (ih t) fun _ _ _ => .pure _

/-- The statement that selects the targets of an association, for the type of the targets. -/
def selectFor (m : Metadata) : AssociationSource → Statement
  | .foreignKey column => selectBy m column
  | .joinTable links =>
    .selectLinked m.columnNames m.table.name links.table m.identifier.column links.inverseJoinColumn
      links.joinColumn

variable [Database δ]

theorem findById_utters (g : Gateway) {entity : String} {id : Value} (s : Site (Overheard δ))
    (h : ∀ m, S.metadata entity = .ok m →
      P (.query g.connection (selectBy m m.identifier.column).render [id])) :
    (g.findById S loader entity id).Via (Site.Says P) s := by
  refine .bind (.lift _) fun m t ht => ?_
  refine .bind (send_utters g _ _ _ t (h m (Prod.mk.inj ht).1)) fun rows t _ => ?_
  cases rows with
  | nil => exact .pure _
  | cons row _ => exact .bind (Site.change_utters _ t) fun _ _ _ => .pure _

theorem findAll_utters (g : Gateway) (m : Metadata) {statement : Statement} {v : Value}
    (s : Site (Overheard δ)) (h : P (.query g.connection statement.render [v])) :
    (g.findAll S loader m statement v).Via (Site.Says P) s :=
  .bind (send_utters g _ _ _ s h) fun rows t _ => hydrateAll_utters m.entity rows t

theorem findAssociated_utters (g : Gateway) {q : AssociationQuery} (s : Site (Overheard δ))
    (h : ∀ m, S.metadata q.target = .ok m →
      P (.query g.connection (selectFor m q.source).render [q.ownerId])) :
    (g.findAssociated S loader q).Via (Site.Says P) s := by
  unfold findAssociated
  cases hsource : q.source with
  | foreignKey column =>
    refine .bind (.lift _) fun m t ht => findAll_utters g m t ?_
    have hm := h m (Prod.mk.inj ht).1
    rwa [hsource] at hm
  | joinTable links =>
    refine .bind (.lift _) fun m t ht => findAll_utters g m t ?_
    have hm := h m (Prod.mk.inj ht).1
    rwa [hsource] at hm

omit [Database δ] in
/-- What is left to do after an insert is done in silence. -/
theorem afterInsert_utters (m : Metadata) (sql : String) (i : InstanceId) (id : Value)
    (result : InsertResult) (s : Site (Overheard δ)) :
    (afterInsert S m sql i id result).Via (Site.Says P) s := by
  unfold afterInsert
  split
  · exact .throw _
  · split
    · unfold writeIdentifier
      split
      · exact .throw _
      · exact .bind (.lift _) fun v t _ => Site.change_utters _ t
    · exact .pure _

theorem save_utters (g : Gateway) (i : InstanceId) (s : Site (Overheard δ))
    (h : ∀ m id values, S.metadata (s.heap.typeOf i) = .ok m → s.heap.id S i = .ok id →
      parameters S s.heap i (insertFields m id) = .ok values →
        P (.insert g.connection (Statement.insert m.table.name
          ((insertFields m id).map PersistentField.column)).render values)) :
    (g.save S i).Via (Site.Says P) s := by
  rw [save_eq]
  refine .bind (.reading _) fun n t ht => ?_
  obtain ⟨hn, rfl⟩ := Prod.mk.inj ht
  obtain ⟨hm, hid, hvalues⟩ := insertion_eq_ok.1 hn
  refine .bind (send_utters g _ _ _ s (h _ _ _ hm hid hvalues)) fun result t _ => ?_
  exact afterInsert_utters n.metadata n.sql i n.id result t

theorem update_utters (g : Gateway) {key : EntityKey} {columns : List ColumnValue}
    (s : Site (Overheard δ)) (h : columns ≠ [] → ∀ m, S.metadata key.entity = .ok m →
      P (.execute g.connection (Statement.update m.table.name (columns.map ColumnValue.column)
        m.identifier.column).render (columns.map ColumnValue.value ++ [key.id]))) :
    (g.update S key columns).Via (Site.Says P) s := by
  unfold update
  split
  · exact .pure _
  · next hcolumns =>
    have hne : columns ≠ [] := fun hnil => hcolumns (List.isEmpty_iff.2 hnil)
    exact .bind (.lift _) fun m t ht => send_utters g _ _ _ t (h hne m (Prod.mk.inj ht).1)

theorem deleteByKey_utters (g : Gateway) {key : EntityKey} (s : Site (Overheard δ))
    (h : ∀ m, S.metadata key.entity = .ok m →
      P (.execute g.connection (Statement.delete m.table.name m.identifier.column).render [key.id])) :
    (g.deleteByKey S key).Via (Site.Says P) s :=
  .bind (.lift _) fun m t ht => send_utters g _ _ _ t (h m (Prod.mk.inj ht).1)

end Gateway

/-! ## Sessions -/

/-- What a session says of its own accord is of a kind, if its queue holds nothing but actions of a kind:
what it says to find, insert, update and delete.  By the time that an instance is inserted it may have got an
identifier that it did not have in the beginning, in the given heap. -/
structure Session.Allowed (S : Schema) (h : Heap) (P : Utterance → Prop) (Q : Action → Prop) : Prop where
  find : ∀ c entity m id, S.metadata entity = .ok m →
    P (.query c (Gateway.selectBy m m.identifier.column).render [id])
  insert : ∀ g entity i h' m id values, Q (.insert g entity i) → h.KeepsKeys S h' →
    S.metadata (h'.typeOf i) = .ok m → h'.id S i = .ok id →
      Gateway.parameters S h' i (Gateway.insertFields m id) = .ok values →
        P (.insert g.connection (Statement.insert m.table.name
          ((Gateway.insertFields m id).map PersistentField.column)).render values)
  update : ∀ g k columns m, Q (.update g k columns) → columns ≠ [] → S.metadata k.entity = .ok m →
    P (.execute g.connection (Statement.update m.table.name (columns.map ColumnValue.column)
      m.identifier.column).render (columns.map ColumnValue.value ++ [k.id]))
  delete : ∀ c entity m id, S.metadata entity = .ok m →
    P (.execute c (Statement.delete m.table.name m.identifier.column).render [id])
  inserts : ∀ g i id, h.id S i = .ok id → Q (.insert g (h.typeOf i) i)
  deletes : ∀ g k, Q (.delete g k)

/-- What is said for a request is of a kind. -/
def Request.Allowed (S : Schema) (P : Utterance → Prop) : Request → Prop
  | .byKey _ _ => True
  | .byQuery q => ∀ c m, S.metadata q.target = .ok m →
    P (.query c (Gateway.selectFor m q.source).render [q.ownerId])

/-- What is said for a call is of a kind, apart from what sessions say of their own accord. -/
def Session.Call.Allowed (S : Schema) (P : Utterance → Prop) : Session.Call → Prop
  | .ask request => request.Allowed S P
  | .close => ∀ c, P (.close c)
  | _ => True

namespace Work

variable {P : Utterance → Prop} {Q : Action → Prop}

/-- The session said nothing but utterances of a kind, and queued nothing but actions of a kind. -/
structure Says (P : Utterance → Prop) (Q : Action → Prop) (w v : Work (Overheard δ)) : Prop where
  said : Site.Says P w.site v.site
  queued : (∀ a ∈ w.session.queue.pending, Q a) → ∀ a ∈ v.session.queue.pending, Q a

theorem Says.refl (w : Work (Overheard δ)) : Says P Q w w := ⟨.refl _, fun h => h⟩

theorem Says.trans {w v u : Work (Overheard δ)} (h : Says P Q w v) (h' : Says P Q v u) : Says P Q w u :=
  ⟨h.said.trans h'.said, fun hw => h'.queued (h.queued hw)⟩

/-- Who goes by utterances has made them. -/
theorem Says.of_via {x : Act (Work (Overheard δ)) α} {w : Work (Overheard δ)}
    (h : x.Via (Says P Q) w) : Says P Q w (x.perform w).2 :=
  h.invariant (P := Says P Q w) (fun _ _ hstep hw => hw.trans hstep) (.refl w)

theorem onSite_utters {x : Act (Site (Overheard δ)) α} {w : Work (Overheard δ)}
    (h : x.Via (Site.Says P) w.site) : (onSite x).Via (Says P Q) w :=
  .within rfl (fun _ _ h => ⟨h, fun hq => hq⟩) h

theorem modifyContext_utters (f : Heap → Context → Except Error Context) (w : Work (Overheard δ)) :
    (modifyContext f).Via (Says P Q) w :=
  modifyContext_via w fun _ _ => ⟨.refl _, fun hq => hq⟩

end Work

namespace Session

variable {S : Schema} {h : Heap} {P : Utterance → Prop} {Q : Action → Prop}

/-! ### Acts that say nothing -/

theorem adopt_utters (k : EntityKey) (loaded : InstanceId) (w : Work (Overheard δ)) :
    (adopt S k loaded).Via (Work.Says P Q) w := by
  refine .bind (.reading _) fun found v _ => ?_
  cases found with
  | some tracked => exact .pure _
  | none => exact .bind (Work.modifyContext_utters _ v) fun _ _ _ => .reading _

theorem adoptAll_utters (is : List InstanceId) (w : Work (Overheard δ)) :
    (adoptAll S is).Via (Work.Says P Q) w := by
  induction is generalizing w with
  | nil => exact .pure _
  | cons i rest ih =>
    refine .bind (.reading _) fun k v _ => ?_
    refine .bind (adopt_utters k i v) fun _ v _ => ?_
    exact .bind (ih v) fun _ _ _ => .pure _

theorem enqueue_utters {a : Session → Action} {w : Work (Overheard δ)} (ha : Q (a w.session)) :
    (enqueue a).Via (Work.Says P Q) w :=
  .of ⟨.refl _, fun hq => List.forall_mem_append.2 ⟨hq, List.forall_mem_singleton.2 ha⟩⟩

theorem delete_utters (hdeletes : ∀ g k, Q (.delete g k)) (i : InstanceId) (w : Work (Overheard δ)) :
    (delete S i).Via (Work.Says P Q) w := by
  refine .bind (.reading _) fun _ v _ => ?_
  refine .bind (.reading _) fun k v _ => ?_
  split
  · exact .throw _
  · exact .bind (enqueue_utters (hdeletes _ _)) fun _ v _ => .of ⟨.refl _, fun hq => hq⟩

/-- The updates that a flush queues for some entries are of a kind. -/
def UpdatesAre (S : Schema) (Q : Action → Prop) (w : Work δ) (es : List (EntityKey × InstanceId)) :
    Prop :=
  ∀ e ∈ es, ∀ columns, updateColumns S w.site.heap e.2 = .ok columns →
    Q (.update w.session.gateway e.1 columns)

theorem enqueueUpdates_utters {dirty : List (EntityKey × InstanceId)} {w : Work (Overheard δ)}
    (h : UpdatesAre S Q w dirty) : (enqueueUpdates S dirty).Via (Work.Says P Q) w := by
  induction dirty generalizing w with
  | nil => exact .pure _
  | cons e rest ih =>
    obtain ⟨he, hrest⟩ := List.forall_mem_cons.1 h
    refine .bind (.reading _) fun columns v hv => ?_
    obtain ⟨hcolumns, rfl⟩ := Prod.mk.inj hv
    refine .bind (enqueue_utters (he columns hcolumns)) fun _ v hv => ?_
    cases hv
    exact ih hrest

theorem scheduleUpdates_utters {w : Work (Overheard δ)}
    (h : UpdatesAre S Q w w.session.context.instances) :
    (scheduleUpdates S).Via (Work.Says P Q) w := by
  refine .bind (.bind (.reading _) fun s v _ => ?_) fun dirty v hv => ?_
  · exact .bind (.of ⟨.refl _, fun hq => hq⟩) fun _ v _ => .reading _
  · obtain ⟨tracked, choices, hperm, hdirty, rfl⟩ := dirtyEntities_ok hv
    refine .bind (enqueueUpdates_utters fun e he => h e ?_) fun _ _ _ => .pure _
    rw [(Context.dirtyAmong_eq_ok hdirty).2] at he
    exact hperm.subset (List.mem_filter.1 he).1

/-! ### Acts that send statements -/

variable [Database δ]

theorem find_utters (hA : Allowed S h P Q) (entity : String) (id : Value) (w : Work (Overheard δ)) :
    (find S entity id).Via (Work.Says P Q) w := by
  refine .bind (.reading _) fun _ v _ => ?_
  refine .bind (.lift _) fun k v _ => ?_
  refine .bind (.reading _) fun found v _ => ?_
  cases found with
  | some tracked => exact .pure _
  | none =>
    refine .bind (.reading _) fun s v _ => ?_
    have hutters := fun m hm => hA.find s.gateway.connection entity m k.id hm
    refine .bind (Work.onSite_utters (Gateway.findById_utters s.gateway v.site hutters)) fun loaded v _ => ?_
    cases loaded with
    | none => exact .pure _
    | some i => exact .map _ (adopt_utters k i v)

theorem findById_utters (hA : Allowed S h P Q) (entity : String) (id : Value) (w : Work (Overheard δ)) :
    (findById S entity id).Via (Work.Says P Q) w := by
  refine .bind (find_utters hA entity id w) fun found v _ => ?_
  cases found with
  | none => exact .pure _
  | some i =>
    refine .bind (.reading _) fun _ v _ => ?_
    split
    · exact .pure _
    · exact .throw _

theorem askSession_utters (hA : Allowed S h P Q) {request : Request} (hrequest : request.Allowed S P)
    (w : Work (Overheard δ)) : (World.askSession S request).Via (Work.Says P Q) w := by
  cases request with
  | byKey target id => exact .bind (find_utters hA target id w) fun _ _ _ => .pure _
  | byQuery query =>
    refine .bind (.reading _) fun _ v _ => ?_
    refine .bind (.reading _) fun s v _ => ?_
    refine .bind (Work.onSite_utters (Gateway.findAssociated_utters _ _ (hrequest _))) fun loaded v _ => ?_
    exact adoptAll_utters loaded v

theorem persist_utters {w : Work (Overheard δ)} (hA : Allowed S w.site.heap P Q) (i : InstanceId) :
    (persist S i).Via (Work.Says P Q) w := by
  refine .bind (.reading _) fun _ v hv => ?_
  obtain ⟨-, rfl⟩ := Prod.mk.inj hv
  refine .bind (.reading _) fun id v hv => ?_
  obtain ⟨hid, rfl⟩ := Prod.mk.inj hv
  refine .bind (.reading _) fun s v hv => ?_
  obtain ⟨-, rfl⟩ := Prod.mk.inj hv
  split
  · have hsave := Gateway.save_utters s.gateway i w.site fun m id' values =>
      hA.insert s.gateway _ i _ m id' values (hA.inserts _ i id hid) (.refl S _)
    refine .bind (Work.onSite_utters hsave) fun _ v _ => ?_
    exact Work.modifyContext_utters _ v
  · refine .bind (.reading _) fun entity v hv => ?_
    cases hv
    split
    · exact .pure _
    · exact .bind (enqueue_utters (hA.inserts _ i id hid)) fun _ v _ => Work.modifyContext_utters _ v

theorem close_utters (hclose : ∀ c, P (.close c)) {w : Work (Overheard δ)}
    (hupdates : UpdatesAre S Q w w.session.context.instances) :
    (close S).Via (Work.Says P Q) w := by
  refine .bind (.reading _) fun s v hv => ?_
  obtain ⟨-, rfl⟩ := Prod.mk.inj hv
  split
  · exact .pure _
  · refine .bind (.of ⟨.refl _, fun hq => hq⟩) fun _ v hv => ?_
    cases hv
    have hschedule : (scheduleUpdates S).Via (Work.Says P Q)
        { w with session := { w.session with isOpen := false } } := scheduleUpdates_utters hupdates
    refine .bind hschedule.outcome fun _ v _ => ?_
    refine .bind (.of ⟨.refl _, fun _ => List.forall_mem_nil _⟩) fun _ v _ => ?_
    have hsaid : (Site.call (Database.close s.gateway.connection)).Via (Site.Says P) v.site :=
      .of ⟨[.close s.gateway.connection], rfl, List.forall_mem_singleton.2 (hclose _)⟩
    exact .bind (Work.onSite_utters hsaid).outcome fun _ _ _ => .lift _

variable [Callbacks δ]

theorem run_utters (hA : Allowed S h P Q) {a : Action} (ha : Q a) {w : Work (Overheard δ)}
    (hw : h.KeepsKeys S w.site.heap) : (a.run S).Via (Work.Says P Q) w := by
  cases a with
  | insert g entity i =>
    exact Work.onSite_utters (Gateway.save_utters g i _ fun m id values =>
      hA.insert g entity i _ m id values ha hw)
  | update g k columns =>
    have hupdate := Gateway.update_utters g w.site fun hne m hm => hA.update g k columns m ha hne hm
    refine .bind (Work.onSite_utters hupdate) fun _ v _ => ?_
    exact Work.modifyContext_utters _ v
  | delete g k =>
    have hdelete := Gateway.deleteByKey_utters g w.site fun m hm =>
      hA.delete g.connection k.entity m k.id hm
    exact .bind (Work.onSite_utters hdelete) fun _ v _ => .pure _
  | outside number name priority =>
    exact Work.onSite_utters (.of (.of_said (List.append_nil _)))

theorem drain_utters (hA : Allowed S h P Q) {q : Queue} (hq : ∀ a ∈ q.pending, Q a)
    {w : Work (Overheard δ)} (hw : h.KeepsKeys S w.site.heap) :
    (drain S q).Via (Work.Says P Q) w := by
  have hdrain : Work.Says P Q w (q.drain (Action.run S) w.session.choices w).1.2 ∧
      h.KeepsKeys S (q.drain (Action.run S) w.session.choices w).1.2.site.heap := by
    refine Queue.drain_invariant (P := fun v => Work.Says P Q w v ∧ h.KeepsKeys S v.site.heap)
      (fun a ha v ⟨hsaid, hv⟩ => ?_) ⟨.refl w, hw⟩
    exact ⟨hsaid.trans (.of_via (run_utters hA (hq a ha) hv)), hv.trans (run_change a v).keepsKeys⟩
  exact .of ⟨hdrain.1.said, hdrain.1.queued⟩

theorem flush_utters {w : Work (Overheard δ)} (hA : Allowed S w.site.heap P Q)
    (hqueue : ∀ a ∈ w.session.queue.pending, Q a)
    (hupdates : UpdatesAre S Q w w.session.context.instances) :
    (flush S).Via (Work.Says P Q) w := by
  refine .bind (.reading _) fun _ v hv => ?_
  obtain ⟨-, rfl⟩ := Prod.mk.inj hv
  have hschedule := scheduleUpdates_utters (P := P) hupdates
  refine .bind hschedule fun _ v hv => ?_
  have hutters := Work.Says.of_via hschedule
  have hkeeps := (scheduleUpdates_change (S := S) w).keepsKeys
  rw [hv] at hutters hkeeps
  refine .bind (.of ⟨.refl _, fun _ => List.forall_mem_nil _⟩) fun q u hu => ?_
  cases hu
  exact .bind (drain_utters hA (hutters.queued hqueue) hkeeps) fun _ _ _ => .pure _

/-- Whatever a session is called for, everything that it says is of a kind, if what it says of its own
accord is and what it queues. -/
theorem act_utters {w : Work (Overheard δ)} (hA : Allowed S w.site.heap P Q) {c : Call}
    (hc : c.Allowed S P) (hqueue : ∀ a ∈ w.session.queue.pending, Q a)
    (hupdates : UpdatesAre S Q w w.session.context.instances) :
    Work.Says P Q w ((c.act S).perform w).2 := by
  refine .of_via ?_
  cases c with
  | find entity id => exact .map _ (findById_utters hA entity id w)
  | ask request => exact askSession_utters hA hc w
  | persist i => exact .map _ (persist_utters hA i)
  | delete i => exact .map _ (delete_utters hA.deletes i w)
  | flush => exact .map _ (flush_utters hA hqueue hupdates)
  | close => exact .map _ (close_utters hc hupdates)

/-- Whatever a session is called for, if it is not to close, it says statements only. -/
theorem act_speaks {c : Call} (hc : c ≠ .close) (w : Work (Overheard δ)) :
    Site.Speaks w.site ((c.act S).perform w).2.site := by
  have hA : Allowed S w.site.heap Utterance.IsStatement fun _ => True := by
    constructor <;> intros <;> trivial
  have hallowed : c.Allowed S Utterance.IsStatement := by
    cases c with
    | ask request =>
      cases request with
      | byKey => trivial
      | byQuery q => exact fun _ _ _ => trivial
    | close => exact absurd rfl hc
    | _ => trivial
  exact (act_utters hA hallowed (fun _ _ => trivial) fun _ _ _ _ => trivial).said

end Session

end EntitySession
