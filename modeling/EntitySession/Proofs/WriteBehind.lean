import EntitySession.Proofs.Clean
import EntitySession.Proofs.IdentityMap
import EntitySession.Proofs.TableStores

/-!
# Writes that wait, and writes that do not

To persist an instance with an identifier, or to delete one, sends nothing: the statement waits for the
next flush, which sends all inserts before all deletes.  Here this is compared with a session that does
not wait but sends each statement at the moment of its call (`Write.through`).

Suppose that such calls succeed if nothing waits.  Then they succeed if everything waits, and what waits
means the same writes to the same rows (`Write.through_ok`).  The flush does these in another order, and
whether that matters is a question about the rows alone: `Session.Reachable.writeBehind_agrees` says that
the flush succeeds and leaves the same rows exactly when the writes are in order.  They are not in order
when a row is deleted and then inserted: the flush sends the insert first, and the row is still there.

Of the calls it is only used which actions they queue and what becomes of the context (`Write.Defers`).
-/

set_option autoImplicit false

namespace EntitySession

variable {δ : Type} {S : Schema}

/-- A call that writes. -/
inductive Write where
  | persist (i : InstanceId)
  | delete (i : InstanceId)

namespace Write

/-! ## What waits after a call -/

/-- The actions that a call queues and what becomes of the context, where identifiers are known. -/
inductive Defers (S : Schema) (h : Heap) (g : Gateway) (c : Context) :
    Write → List Action → Context → Prop
  | known {i : InstanceId} {j : EntityKey} (hj : h.key S i = .ok j) (hn : j.id ≠ .null)
      (hc : c.contains j = true) : Defers S h g c (.persist i) [] c
  | inserted {i : InstanceId} {j : EntityKey} {c' : Context} (hj : h.key S i = .ok j)
      (hn : j.id ≠ .null) (hc : c.contains j = false) (hput : c.put S h i = .ok c') :
      Defers S h g c (.persist i) [.insert g j.entity i] c'
  | deleted {i : InstanceId} {j : EntityKey} (hj : h.key S i = .ok j) (hn : j.id ≠ .null) :
      Defers S h g c (.delete i) [.delete g j] (c.remove j)

/-- What some calls queue, one after another. -/
inductive DefersAll (S : Schema) (h : Heap) (g : Gateway) :
    Context → List Write → List Action → Context → Prop
  | nil {c : Context} : DefersAll S h g c [] [] c
  | cons {c c' c'' : Context} {x : Write} {xs : List Write} {as bs : List Action}
      (hx : Defers S h g c x as c') (hxs : DefersAll S h g c' xs bs c'') :
      DefersAll S h g c (x :: xs) (as ++ bs) c''

/-- A session with more actions in its queue and another context. -/
def deferred (w : Work δ) (as : List Action) (c : Context) : Work δ :=
  { w with session := { w.session with
    queue := ⟨w.session.queue.pending ++ as⟩, context := c } }

theorem deferred_deferred (w : Work δ) (as bs : List Action) (c c' : Context) :
    deferred (deferred w as c) bs c' = deferred w (as ++ bs) c' := by
  simp only [deferred, List.append_assoc]

theorem deferred_nil (w : Work δ) : deferred w [] w.session.context = w := by
  simp only [deferred, List.append_nil]

/-- A queue in which only the actions of a call wait is taken away. -/
theorem takeQueue_deferred {w : Work δ} {as : List Action} {c : Context}
    (hqueue : w.session.queue.pending = []) :
    Session.takeQueue.perform (deferred w as c) = (.ok ⟨as⟩, deferred w [] c) := by
  simp only [Session.takeQueue, Act.perform_of, deferred, hqueue, List.nil_append]
  rfl

/-- What is tracked and clean stays clean. -/
theorem Defers.clean {h : Heap} {g : Gateway} {c c' : Context} {x : Write} {as : List Action}
    (hx : Defers S h g c x as c') (hclean : c.Clean S h) : c'.Clean S h := by
  cases hx with
  | known => exact hclean
  | inserted _ _ _ hput => exact Context.clean_put hput hclean
  | deleted => exact Context.clean_remove hclean _

theorem DefersAll.clean {h : Heap} {g : Gateway} {c c' : Context} {xs : List Write} {as : List Action}
    (hxs : DefersAll S h g c xs as c') (hclean : c.Clean S h) : c'.Clean S h := by
  induction hxs with
  | nil => exact hclean
  | cons hx _ ih => exact ih (hx.clean hclean)

variable [Database δ]

/-- The call. -/
def act (S : Schema) : Write → Act (Work δ) Unit
  | persist i => Session.persist S i
  | delete i => Session.delete S i

/-- A call that succeeds has queued its actions. -/
theorem defers_of_ok {x : Write} {w v : Work δ}
    (hid : ∀ i, x = .persist i → w.site.heap.id S i ≠ .ok .null)
    (h : (x.act S).perform w = (.ok (), v)) :
    ∃ as c, Defers S w.site.heap w.session.gateway w.session.context x as c ∧ v = deferred w as c := by
  cases x with
  | persist i =>
    obtain ⟨-, hregisters⟩ := Session.persist_ok h
    cases hregisters with
    | generated hnull => exact absurd hnull (hid i rfl)
    | known hj hn hc => exact ⟨_, _, .known hj hn hc, (deferred_nil w).symm⟩
    | waiting hj hn hc hput => exact ⟨_, _, .inserted hj hn hc hput, rfl⟩
  | delete i =>
    obtain ⟨j, hj, hn, rfl⟩ := Session.delete_ok h
    exact ⟨_, _, .deleted hj hn, rfl⟩

/-- To persist an instance with an identifier is to let its insert wait, unless its key is tracked. -/
theorem persist_known {i : InstanceId} {j : EntityKey} {w : Work δ}
    (hopen : w.session.isOpen = true) (hj : w.site.heap.key S i = .ok j) (hn : j.id ≠ .null) :
    (Session.persist S i).perform w =
      if w.session.context.contains j then (.ok (), w)
      else (Work.modifyContext fun h c => c.put S h i).perform (deferred w
        [.insert w.session.gateway j.entity i] w.session.context) := by
  obtain ⟨hid, htype⟩ := Heap.key_eq_ok.1 hj
  rw [Session.persist, Act.perform_bind_of_ok (Session.ensureOpen_open hopen),
    Act.perform_bind_of_ok (Work.perform_look_of_ok hid),
    Act.perform_bind_of_ok (Work.perform_look_of_ok rfl), if_neg fun h => hn ((Value.isNull_iff _).1 h),
    Act.perform_bind_of_ok (Work.perform_look_of_ok rfl), htype]
  split
  · rfl
  · rfl

/-- A call succeeds if its actions can be queued. -/
theorem Defers.perform {x : Write} {w : Work δ} {as : List Action} {c : Context}
    (hx : Defers S w.site.heap w.session.gateway w.session.context x as c)
    (hopen : w.session.isOpen = true) : (x.act S).perform w = (.ok (), deferred w as c) := by
  cases hx with
  | @known i j hj hn hc =>
    rw [act, persist_known hopen hj hn, if_pos hc]
    exact congrArg (Prod.mk _) (deferred_nil w).symm
  | @inserted i j _ hj hn hc hput =>
    rw [act, persist_known hopen hj hn, if_neg (by rw [hc]; exact Bool.false_ne_true)]
    exact Work.perform_modifyContext_ok.2 ⟨_, hput, rfl⟩
  | @deleted i j hj hn =>
    rw [act, Session.delete, Act.perform_bind_of_ok (Session.ensureOpen_open hopen),
      Act.perform_bind_of_ok (Work.perform_look_of_ok hj),
      if_neg fun h => hn ((Value.isNull_iff _).1 h)]
    rfl

theorem DefersAll.perform {xs : List Write} {w : Work δ} {as : List Action} {c : Context}
    (hxs : DefersAll S w.site.heap w.session.gateway w.session.context xs as c)
    (hopen : w.session.isOpen = true) :
    (Act.each (act S) xs).perform w = (.ok (), deferred w as c) := by
  generalize hcontext : w.session.context = c₀ at hxs
  generalize hheap : w.site.heap = h at hxs
  generalize hgateway : w.session.gateway = g at hxs
  induction hxs generalizing w with
  | nil => rw [← hcontext, deferred_nil]; rfl
  | @cons c₀ c₁ c₂ x xs as bs hx hxs ih =>
    subst hcontext hheap hgateway
    have hrest := ih (w := deferred w as c₁) hopen rfl rfl rfl
    rw [Act.each, Act.perform_bind_of_ok (hx.perform hopen), hrest, deferred_deferred]

/-! ## Writing at once -/

variable [Callbacks δ]

/-- The call, and at once the statements that it has queued. -/
def through (S : Schema) (x : Write) : Act (Work δ) Unit := do
  x.act S
  let q ← Session.takeQueue
  Act.each (Action.run S) q.pending

/-- What a call has queued means writes to rows, if it could be run. -/
theorem Defers.exists_means (store : TableStore S δ) {g : Gateway} {c c' : Context} {x : Write}
    {as : List Action} {w v : Work δ} (hx : Defers S w.site.heap g c x as c')
    (hrun : (Act.each (Action.run S) as).perform w = (.ok (), v)) :
    ∃ ys, List.Forall₂ (store.Means w.site.heap g) as ys := by
  cases hx with
  | known => exact ⟨[], .nil⟩
  | inserted hj hn =>
    obtain ⟨_, u, hu, -⟩ := Act.perform_bind_ok.1 hrun
    obtain ⟨y, hy⟩ := TableStore.exists_means_insert (Heap.key_eq_ok.1 hj).1 hn hu
    exact ⟨[y], .cons hy .nil⟩
  | deleted hj hn =>
    obtain ⟨_, u, hu, -⟩ := Act.perform_bind_ok.1 hrun
    obtain ⟨y, hy⟩ := TableStore.exists_means_delete hn hu
    exact ⟨[y], .cons hy .nil⟩

/-- One call that succeeds when nothing waits has written the rows as its actions mean, and nothing
waits after it. -/
theorem through_step (store : TableStore S δ) {x : Write} {w u : Work δ}
    (hqueue : w.session.queue.pending = [])
    (hid : ∀ i, x = .persist i → w.site.heap.id S i ≠ .ok .null)
    (h : (through S x).perform w = (.ok (), u)) :
    ∃ as c ys t, Defers S w.site.heap w.session.gateway w.session.context x as c ∧
      List.Forall₂ (store.Means w.site.heap w.session.gateway) as ys ∧
      RowWrite.run ys (store.rows w.session.gateway.connection w.site.outside) =
        some (store.rows w.session.gateway.connection t.outside) ∧
      t.heap = w.site.heap ∧ u = { deferred w [] c with site := t } := by
  obtain ⟨_, v, hv, hrun⟩ := Act.perform_bind_ok.1 h
  obtain ⟨as, c, hdefers, rfl⟩ := defers_of_ok hid hv
  rw [Act.perform_bind_of_ok (takeQueue_deferred hqueue)] at hrun
  obtain ⟨ys, hmeans⟩ := Defers.exists_means store (w := deferred w [] c) hdefers hrun
  have hwrites := TableStore.writes_each hmeans (w := deferred w [] c) rfl
  rw [hrun] at hwrites
  cases hwrites with
  | @done t hheap hrows => exact ⟨as, c, ys, t, hdefers, hmeans, hrows, hheap, rfl⟩

/-- Calls that succeed when nothing waits: which actions they would queue, and that the rows are written
as these mean, in the order of the calls. -/
theorem through_ok (store : TableStore S δ) {xs : List Write} {w u : Work δ}
    (hqueue : w.session.queue.pending = [])
    (hid : ∀ i, .persist i ∈ xs → w.site.heap.id S i ≠ .ok .null)
    (h : (Act.each (through S) xs).perform w = (.ok (), u)) :
    ∃ as c ys, DefersAll S w.site.heap w.session.gateway w.session.context xs as c ∧
      List.Forall₂ (store.Means w.site.heap w.session.gateway) as ys ∧
      RowWrite.run ys (store.rows w.session.gateway.connection w.site.outside) =
        some (store.rows w.session.gateway.connection u.site.outside) := by
  induction xs generalizing w with
  | nil =>
    cases h
    exact ⟨[], _, [], .nil, .nil, rfl⟩
  | cons x xs ih =>
    obtain ⟨_, v, hv, h⟩ := Act.perform_bind_ok.1 h
    obtain ⟨as, c, ys, t, hdefers, hmeans, hrows, hheap, rfl⟩ :=
      through_step store hqueue (fun i hi => hid i (hi ▸ List.mem_cons_self)) hv
    obtain ⟨bs, c', zs, hdefers', hmeans', hrows'⟩ := ih (w := { deferred w [] c with site := t })
      (by rw [deferred, hqueue]; rfl)
      (fun i hi hnull => hid i (List.mem_cons_of_mem _ hi) (hheap ▸ hnull)) h
    rw [hheap] at hdefers' hmeans'
    refine ⟨as ++ bs, c', ys ++ zs, .cons hdefers hdefers', List.rel_append hmeans hmeans', ?_⟩
    rw [RowWrite.run_append, hrows, Option.bind_some]
    exact hrows'

end Write

/-! ## Sending in another order -/

namespace Session

/-- The scan of a session in which nothing is dirty queues nothing. -/
theorem scheduleUpdates_of_clean {w : Work δ} (hclean : w.session.context.Clean S w.site.heap) :
    ∃ choices, (scheduleUpdates S).perform w =
      (.ok 0, { w with session := { w.session with choices } }) := by
  have hnone : w.session.context.dirtyAmong S w.site.heap
      (w.session.choices.shuffle w.session.context.instances).1 = .ok [] :=
    Context.dirtyAmong_of_clean fun e he => hclean e ((Choices.shuffle_perm ..).mem_iff.1 he)
  have hdirty : (dirtyEntities S).perform w = (.ok [], { w with session := { w.session with
      choices := (w.session.choices.shuffle w.session.context.instances).2 } }) :=
    Prod.ext hnone rfl
  exact ⟨_, Act.perform_bind_of_ok hdirty _⟩

variable [Database δ] [Callbacks δ]

/-- A flush with nothing dirty runs what waits, the more urgent first, and nothing else. -/
theorem flush_of_clean {w : Work δ} (hopen : w.session.isOpen = true)
    (hclean : w.session.context.Clean S w.site.heap) :
    ∃ (order : List Action) (v : Work δ), order.Perm w.session.queue.pending ∧
      order.Pairwise (fun a b => a.priority ≤ b.priority) ∧ v.site = w.site ∧
      ((flush S).perform w).1 = ((Act.each (Action.run S) order).perform v).1 ∧
      ((flush S).perform w).2.site = ((Act.each (Action.run S) order).perform v).2.site := by
  obtain ⟨choices, hscan⟩ := scheduleUpdates_of_clean hclean
  let v : Work δ := { w with session := { w.session with choices, queue := .empty } }
  have htake : takeQueue.perform { w with session := { w.session with choices } } =
      (.ok w.session.queue, v) := rfl
  obtain ⟨order, hperm, hsorted, hdrain⟩ :=
    Queue.drain_each (Action.run S) w.session.queue v.session.choices v
  refine ⟨order, v, hperm, hsorted, rfl, ?_⟩
  rw [flush, Act.perform_bind_of_ok (ensureOpen_open hopen), Act.perform_bind_of_ok hscan,
    Act.perform_bind_of_ok htake, Act.perform_bind, drain, Act.perform_of]
  rcases hd : Queue.drain (Action.run S) w.session.queue v.session.choices v with ⟨⟨r, u⟩, _, choices'⟩
  rw [hd] at hdrain
  obtain ⟨rfl, rfl⟩ := Prod.mk.inj hdrain
  cases ((Act.each (Action.run S) order).perform v).1 with
  | ok u => exact ⟨rfl, rfl⟩
  | error e => exact ⟨rfl, rfl⟩

/-- Calls that persist instances with identifiers or delete some: suppose that they succeed if each of
their statements is sent at once, in a session in which nothing waits and nothing is dirty.  Then they
succeed if all of it waits.  The flush succeeds as well, and leaves the same rows, if and only if what
waits is in order; it is, if no row is inserted after it was deleted. -/
theorem Reachable.writeBehind_agrees {w u : Work δ} {calls : List Write} (hw : Reachable S w)
    (store : TableStore S δ) (hopen : w.session.isOpen = true) (hqueue : w.session.queue.pending = [])
    (hclean : Clean S w) (hid : ∀ i, .persist i ∈ calls → w.site.heap.id S i ≠ .ok .null)
    (h : (Act.each (Write.through S) calls).perform w = (.ok (), u)) :
    ∃ v xs, (Act.each (Write.act S) calls).perform w = (.ok (), v) ∧ v.site = w.site ∧
      List.Forall₂ (store.Means w.site.heap w.session.gateway) v.session.queue.pending xs ∧
      (((flush S).perform v).1 = .ok () ∧
          store.rows w.session.gateway.connection ((flush S).perform v).2.site.outside =
            store.rows w.session.gateway.connection u.site.outside ↔
        RowWrite.Orderly xs (store.rows w.session.gateway.connection w.site.outside)) ∧
      ((xs.Pairwise fun x y => ∀ a row, x = .delete a → y ≠ .insert a row) →
        RowWrite.Orderly xs (store.rows w.session.gateway.connection w.site.outside)) := by
  obtain ⟨as, c, xs, hdefers, hmeans, hrun⟩ := Write.through_ok store hqueue hid h
  have hqueued : (Write.deferred w as c).session.queue.pending = as := by
    rw [Write.deferred, hqueue]
    rfl
  refine ⟨Write.deferred w as c, xs, hdefers.perform hopen, rfl, by rwa [hqueued], ?_,
    RowWrite.orderly_of_pairwise hrun⟩
  obtain ⟨order, v, hperm, hsorted, hsite, hresult, hend⟩ :=
    flush_of_clean (w := Write.deferred w as c) hopen
      (hdefers.clean ((clean_iff hw.sound).1 hclean))
  rw [hqueued] at hperm
  obtain ⟨inserts, deletes, hordered, hsame, hinserts, hdeletes⟩ :=
    TableStore.exists_sorted hperm hsorted hmeans
  have hwrites := TableStore.writes_each hordered (w := v) (by rw [hsite]; rfl)
  rw [hresult, hend, hwrites.ok_iff, hsite]
  exact RowWrite.run_sorted hrun hsame hinserts hdeletes

end Session

/-! ## A cabinet of notes -/

namespace Notes

/-- A cabinet with a drawer for every number, in which there may be a note. -/
structure Cabinet where
  drawers : Int64 → Option (List ColumnValue)

namespace Cabinet

/-- The drawer for an identifier. -/
def drawer : Value → Int64
  | .bigInt n => n
  | _ => 0

/-- Puts a note into a drawer, if that is empty. -/
def put (d : Cabinet) (sql : String) (id : Value) (row : List ColumnValue) :
    Except Error InsertResult × Cabinet :=
  if (d.drawers (drawer id)).isSome then
    (.error (Fault.query .constraint (some sql) "the drawer is taken").error, d)
  else (.ok ⟨1, []⟩, ⟨Function.update d.drawers (drawer id) (some row)⟩)

instance : Database Cabinet where
  query _ _ values d :=
    (.ok (match values with
      | [id] => (d.drawers (drawer id)).toList.map fun row =>
          .of (row.map ColumnValue.column) (row.map ColumnValue.value)
      | _ => []), d)
  execute _ _ values d :=
    match values with
    | [id] => (.ok (d.drawers (drawer id)).toList.length, ⟨Function.update d.drawers (drawer id) none⟩)
    | _ => (.ok 0, d)
  insert _ sql values d :=
    match values with
    | [] => (.ok ⟨0, []⟩, d)
    | v :: _ =>
      match v.cast SqlType.bigInt with
      | .ok id => d.put sql id (metadata.columnNames.zipWith ColumnValue.mk values)
      | .error e => (.error e, d)
  setAutoCommit _ _ d := (.ok (), d)
  commit _ d := (.ok (), d)
  rollback _ d := (.ok (), d)
  close _ d := (.ok (), d)

instance : Callbacks Cabinet where
  loadOne _ _ d := (.ok none, d)
  loadMany _ d := (.ok [], d)
  supply _ d := (.ok [], d)
  performAction _ d := (.ok (), d)

/-- The cabinet is a store of notes. -/
def store : TableStore schema Cabinet where
  Address := Int64
  decideAddress := inferInstance
  address _ id := drawer id
  rows _ d := d.drawers
  insert := by
    intro entity m values v id c d hm hlength hmem hcast hn answer write
    obtain ⟨-, rfl⟩ := metadata_of_ok hm
    obtain ⟨a, b, rfl⟩ := List.length_eq_two.1 (show values.length = 2 from hlength)
    have hfirst : v = a := by
      rcases List.mem_cons.1 hmem with heq | hmem
      · exact (Prod.mk.inj heq).2
      · have hname : "id" = "text" := congrArg (fun f => f.1.name) (List.mem_singleton.1 hmem)
        exact absurd hname (by decide +kernel)
    subst hfirst
    have hanswer : answer = d.put (Statement.insert metadata.table.name metadata.columnNames).render id
        (metadata.columnNames.zipWith ColumnValue.mk [v, b]) := by
      change (match v.cast SqlType.bigInt with
        | .ok id => d.put _ id _
        | .error e => (.error e, d)) = _
      rw [show v.cast SqlType.bigInt = .ok id from hcast]
    rw [hanswer, put]
    cases hdrawer : d.drawers (drawer id) with
    | none =>
      refine .inl ⟨_, ?_, ⟨[], rfl⟩, rfl⟩
      rw [RowWrite.apply, hdrawer]
      rfl
    | some row =>
      refine .inr ⟨?_, _, rfl⟩
      rw [RowWrite.apply, hdrawer]
      rfl
  delete := by
    intro entity m id c d hm hn answer write
    exact ⟨⟨_, rfl⟩, rfl⟩

end Cabinet

/-- A session over an empty cabinet. -/
def vacant : Work Cabinet :=
  ⟨{ heap := site.heap, outside := ⟨fun _ => none⟩, log := [] }, .start ⟨0, false⟩ (.session 0)⟩

/-- The first note is in its drawer. -/
def filed : Work Cabinet :=
  (((Session.Call.flush).act schema).perform
    (((Session.Call.persist 0).act schema).perform vacant).2).2

theorem reachable_filed : Session.Reachable schema filed :=
  ((Session.reachable_start schema vacant.site ⟨0, false⟩ (.session 0)).call (.persist 0)).call .flush

theorem clean_filed : Session.Clean schema filed := by
  have h : (filed.session.context.instances.all fun e =>
      (filed.session.context.differsFor schema filed.site.heap e).toOption == some false) = true := by
    decide +kernel
  refine (Session.clean_iff reachable_filed.sound).2 fun e he => ?_
  exact ok_of_toOption (beq_iff_eq.1 (List.all_eq_true.1 h e he))

/-- Nothing waits. -/
theorem pending_filed : filed.session.queue.pending = [] :=
  List.isEmpty_iff.1 (by decide +kernel)

/-- The notes that are to be made persistent have numbers. -/
def numbered (calls : List Write) : Bool :=
  calls.all fun
    | .persist i =>
      match filed.site.heap.id schema i with
      | .ok .null => false
      | _ => true
    | .delete _ => true

theorem id_of_numbered {calls : List Write} (h : numbered calls = true) (i : InstanceId)
    (hi : .persist i ∈ calls) : filed.site.heap.id schema i ≠ .ok .null := by
  intro hnull
  have hfalse := List.all_eq_true.1 h _ hi
  simp [hnull] at hfalse

/-- The second note is filed, the third one is filed and taken out, and the first one is taken out. -/
def errands : List Write := [.persist 1, .persist 2, .delete 2, .delete 0]

/-- The errands can wait. -/
theorem filed_agrees : ∃ u v, (Act.each (Write.through schema) errands).perform filed = (.ok (), u) ∧
    (Act.each (Write.act schema) errands).perform filed = (.ok (), v) ∧
    ((Session.flush schema).perform v).1 = .ok () ∧
    ((Session.flush schema).perform v).2.site.outside.drawers = u.site.outside.drawers := by
  have hdone : ((Act.each (Write.through schema) errands).perform filed).1.isOk = true := by
    decide +kernel
  have hnumbered : numbered errands = true := by decide +kernel
  obtain ⟨⟨⟩, hdone⟩ := exists_of_isOk hdone
  obtain ⟨v, xs, hv, -, hmeans, hagrees, hordered⟩ :=
    reachable_filed.writeBehind_agrees Cabinet.store (by decide +kernel) pending_filed clean_filed
      (id_of_numbered hnumbered) (Prod.ext hdone rfl)
  have hpriorities : ((((Act.each (Write.act schema) errands).perform filed).2.session.queue.pending).map
      Action.priority) = [1, 1, 3, 3] := by decide +kernel
  have hsorted : v.session.queue.pending.Pairwise fun a b => a.priority ≤ b.priority := by
    rw [hv] at hpriorities
    have hurgency : (v.session.queue.pending.map Action.priority).Pairwise (· ≤ ·) := by
      rw [hpriorities]
      decide
    exact List.pairwise_map.1 hurgency
  obtain ⟨hflushed, hrows⟩ := hagrees.2 (hordered (TableStore.pairwise_of_sorted hmeans hsorted))
  exact ⟨_, v, Prod.ext hdone rfl, hv, hflushed, hrows⟩

/-- The first note is taken out and filed again. -/
def exchange : List Write := [.delete 0, .persist 0]

/-- A note that is filed again before it is taken out finds its drawer taken. -/
theorem displaced : ¬∀ (store : TableStore schema Cabinet) (w u v : Work Cabinet) (calls : List Write),
    Session.Reachable schema w → w.session.isOpen = true → w.session.queue.pending = [] →
    Session.Clean schema w → (∀ i, .persist i ∈ calls → w.site.heap.id schema i ≠ .ok .null) →
    (Act.each (Write.through schema) calls).perform w = (.ok (), u) →
    (Act.each (Write.act schema) calls).perform w = (.ok (), v) →
    ((Session.flush schema).perform v).1 = .ok () ∧
      store.rows w.session.gateway.connection ((Session.flush schema).perform v).2.site.outside =
        store.rows w.session.gateway.connection u.site.outside := by
  intro hagrees
  have hdone : ((Act.each (Write.through schema) exchange).perform filed).1.isOk = true := by
    decide +kernel
  have hcalled : ((Act.each (Write.act schema) exchange).perform filed).1.isOk = true := by
    decide +kernel
  have hflushed : ((Session.flush schema).perform
      ((Act.each (Write.act schema) exchange).perform filed).2).1.isOk = false := by decide +kernel
  obtain ⟨⟨⟩, hdone⟩ := exists_of_isOk hdone
  obtain ⟨⟨⟩, hcalled⟩ := exists_of_isOk hcalled
  obtain ⟨hok, -⟩ := hagrees Cabinet.store filed _ _ exchange reachable_filed (by decide +kernel)
    pending_filed clean_filed (id_of_numbered (by decide +kernel)) (Prod.ext hdone rfl)
    (Prod.ext hcalled rfl)
  rw [hok] at hflushed
  cases hflushed

end Notes

end EntitySession
