import EntitySession.Gateway
import EntitySession.Proofs.Acts
import EntitySession.Proofs.Heaps

/-!
# What happens to a site

Whatever is done over a gateway, the site changes in four ways only: something is asked of the outside
(`Called`), a line is added to the log, a row becomes a new instance, or an instance without an
identifier is given one.  The first three are a `Site.Growth`, which adds instances and leaves the
others alone; all four together are a `Site.Change`.

Only an insert makes use of the fourth.  Everything else, updates and deletes included, goes by growth
(`Gateway.findById_growth` and its companions).
-/

set_option autoImplicit false

namespace EntitySession

variable {δ α : Type}

/-- What a call to the outside makes of it. -/
inductive Called [Database δ] [Callbacks δ] : δ → δ → Prop
  | query (c : ConnectionId) (sql : String) (values : List Value) (d : δ) :
      Called d (Database.query c sql values d).2
  | execute (c : ConnectionId) (sql : String) (values : List Value) (d : δ) :
      Called d (Database.execute c sql values d).2
  | insert (c : ConnectionId) (sql : String) (values : List Value) (d : δ) :
      Called d (Database.insert c sql values d).2
  | setAutoCommit (c : ConnectionId) (on : Bool) (d : δ) : Called d (Database.setAutoCommit c on d).2
  | commit (c : ConnectionId) (d : δ) : Called d (Database.commit c d).2
  | rollback (c : ConnectionId) (d : δ) : Called d (Database.rollback c d).2
  | close (c : ConnectionId) (d : δ) : Called d (Database.close c d).2
  | loadOne (target : String) (id : Value) (d : δ) : Called d (Callbacks.loadOne target id d).2
  | loadMany (q : AssociationQuery) (d : δ) : Called d (Callbacks.loadMany q d).2
  | supply (number : Nat) (d : δ) : Called d (Callbacks.supply number d).2
  | performAction (number : Nat) (d : δ) : Called d (Callbacks.performAction number d).2

namespace Site

/-- A change that leaves the instances that are there as they are. -/
inductive Growth [Database δ] [Callbacks δ] (S : Schema) : Site δ → Site δ → Prop
  | called (s : Site δ) {d : δ} (h : Called s.outside d) : Growth S s { s with outside := d }
  | noted (s : Site δ) (line : LogLine) : Growth S s { s with log := s.log ++ [line] }
  | hydrated (s : Site δ) {loader : Loader} {entity : String} {row : Row} {i : InstanceId} {heap : Heap}
      (h : s.heap.hydrate S loader entity row = .ok (i, heap)) : Growth S s { s with heap := heap }

/-- A growth, or the identifier that an instance was missing. -/
inductive Change [Database δ] [Callbacks δ] (S : Schema) : Site δ → Site δ → Prop
  | growth {s t : Site δ} (h : Growth S s t) : Change S s t
  | identified (s : Site δ) {i : InstanceId} {field : String} {v : Value} {heap : Heap}
      (hid : s.heap.id S i = .ok .null) (h : s.heap.set S i field v = .ok heap) :
      Change S s { s with heap := heap }

variable [Database δ] [Callbacks δ] {S : Schema} {s t : Site δ}

theorem Growth.extends (h : Growth S s t) : s.heap.Extends t.heap := by
  cases h with
  | called => exact .refl _
  | noted => exact .refl _
  | hydrated h => exact Heap.hydrate_extends h

theorem Change.keepsTypes (h : Change S s t) : s.heap.KeepsTypes t.heap := by
  cases h with
  | growth h => exact h.extends.keepsTypes
  | identified _ h =>
    obtain ⟨x, record, -, -, rfl⟩ := Heap.set_eq_ok h
    exact Heap.setRecord_keepsTypes _ _ _

theorem Change.keepsIds (h : Change S s t) : s.heap.KeepsIds S t.heap := by
  cases h with
  | growth h => exact h.extends.keepsIds S
  | identified hid h => exact Heap.set_keepsIds h hid

end Site

namespace Act

variable [Database δ] [Callbacks δ] {S : Schema} {s : Site δ} {x : Act (Site δ) α}

/-- An act that goes by growth only adds instances. -/
theorem Via.extends (h : x.Via (Site.Growth S) s) : s.heap.Extends (x.perform s).2.heap :=
  h.invariant (P := fun t : Site δ => s.heap.Extends t.heap) (fun _ _ hstep ht => ht.trans hstep.extends)
    (.refl _)

theorem Via.change (h : x.Via (Site.Growth S) s) : x.Via (Site.Change S) s := h.mono fun _ _ => .growth

end Act

/-! ## Calls and looks -/

namespace Site

theorem perform_change_ok {f : Heap → Except Error (α × Heap)} {s : Site δ} {a : α} {heap : Heap}
    (h : f s.heap = .ok (a, heap)) : (change f).perform s = (.ok a, { s with heap := heap }) := by
  rw [change, Act.perform_of, h]

theorem perform_change_eq_ok {f : Heap → Except Error (α × Heap)} {s t : Site δ} {a : α} :
    (change f).perform s = (.ok a, t) ↔
      ∃ heap, f s.heap = .ok (a, heap) ∧ t = { s with heap := heap } := by
  constructor
  · intro h
    rw [change, Act.perform_of] at h
    split at h
    · next b heap hf =>
      cases h
      exact ⟨heap, hf, rfl⟩
    · cases h
  · rintro ⟨heap, hf, rfl⟩
    exact perform_change_ok hf

/-- A change of the instances is whatever its computation makes of the heap. -/
theorem change_via {R : Site δ → Site δ → Prop} {f : Heap → Except Error (α × Heap)} (s : Site δ)
    (h : ∀ a heap, f s.heap = .ok (a, heap) → R s { s with heap := heap }) : (change f).Via R s := by
  cases hf : f s.heap with
  | error e =>
    have hp : (change f).perform s = (.error e, s) := by rw [change, Act.perform_of, hf]
    rw [Act.Via, hp]
  | ok r =>
    rw [Act.Via, perform_change_ok hf]
    exact .single (h r.1 r.2 hf)

variable [Database δ] [Callbacks δ] {S : Schema}

theorem call_growth {f : δ → Except Error α × δ} (h : ∀ d, Called d (f d).2) (s : Site δ) :
    (call f).Via (Growth S) s :=
  .of (.called s (h s.outside))

theorem hydrate_growth (loader : Loader) (entity : String) (row : Row) (s : Site δ) :
    (change fun h => h.hydrate S loader entity row).Via (Growth S) s :=
  change_via s fun _ _ h => .hydrated s h

end Site

/-! ## The gateway -/

namespace Gateway

variable {S : Schema} {loader : Loader}

/-- A statement is logged, then sent; its failure is passed on as the cause of another. -/
theorem perform_send (g : Gateway) (sql : String) (f : Fault) (run : δ → Except Error α × δ)
    (s : Site δ) :
    (g.send sql f run).perform s =
      ((run s.outside).1.mapError f.causedBy,
        { s with outside := (run s.outside).2, log := s.log ++ [⟨g.showSql, sql⟩] }) := rfl

theorem perform_send_ok {g : Gateway} {sql : String} {f : Fault} {run : δ → Except Error α × δ}
    {s t : Site δ} {a : α} (h : (g.send sql f run).perform s = (.ok a, t)) :
    (run s.outside).1 = .ok a ∧
      t = { s with outside := (run s.outside).2, log := s.log ++ [⟨g.showSql, sql⟩] } := by
  rw [perform_send, Prod.mk.injEq] at h
  exact ⟨mapError_eq_ok.1 h.1, h.2.symm⟩

variable [Database δ] [Callbacks δ]

theorem send_growth (g : Gateway) (sql : String) (f : Fault) {run : δ → Except Error α × δ}
    (h : ∀ d, Called d (run d).2) (s : Site δ) : (g.send sql f run).Via (Site.Growth S) s := by
  refine .bind (.of (.noted s _)) fun _ t _ => ?_
  exact .blaming _ (Site.call_growth h t)

/-! ### Loading -/

theorem hydrateAll_growth (entity : String) (rows : List Row) (s : Site δ) :
    (hydrateAll S loader entity rows).Via (Site.Growth S) s := by
  induction rows generalizing s with
  | nil => exact .pure _
  | cons row rest ih =>
    refine .bind (Site.hydrate_growth loader entity row s) fun _ t _ => ?_
    exact .bind (ih t) fun _ _ _ => .pure _

theorem findById_growth (g : Gateway) (entity : String) (id : Value) (s : Site δ) :
    (g.findById S loader entity id).Via (Site.Growth S) s := by
  refine .bind (.lift _) fun m t _ => ?_
  refine .bind (send_growth g _ _ (.query _ _ _) t) fun rows t _ => ?_
  cases rows with
  | nil => exact .pure _
  | cons row _ => exact .bind (Site.hydrate_growth loader entity row t) fun _ _ _ => .pure _

theorem findAll_growth (g : Gateway) (m : Metadata) (statement : Statement) (v : Value) (s : Site δ) :
    (g.findAll S loader m statement v).Via (Site.Growth S) s :=
  .bind (send_growth g _ _ (.query _ _ _) s) fun rows t _ => hydrateAll_growth m.entity rows t

theorem findAssociated_growth (g : Gateway) (q : AssociationQuery) (s : Site δ) :
    (g.findAssociated S loader q).Via (Site.Growth S) s := by
  unfold findAssociated
  cases q.source with
  | foreignKey column => exact .bind (.lift _) fun m t _ => findAll_growth g m _ _ t
  | joinTable links => exact .bind (.lift _) fun m t _ => findAll_growth g m _ _ t

/-! ### Writing -/

theorem update_growth (g : Gateway) (key : EntityKey) (columns : List ColumnValue) (s : Site δ) :
    (g.update S key columns).Via (Site.Growth S) s := by
  unfold update
  split
  · exact .pure _
  · exact .bind (.lift _) fun m t _ => send_growth g _ _ (.execute _ _ _) t

theorem deleteByKey_growth (g : Gateway) (key : EntityKey) (s : Site δ) :
    (g.deleteByKey S key).Via (Site.Growth S) s :=
  .bind (.lift _) fun _ t _ => send_growth g _ _ (.execute _ _ _) t

theorem writeIdentifier_change (m : Metadata) (sql : String) (i : InstanceId) (result : InsertResult)
    {s : Site δ} (hid : s.heap.id S i = .ok .null) :
    (writeIdentifier S m sql i result).Via (Site.Change S) s := by
  unfold writeIdentifier
  split
  · exact .throw _
  · refine .bind (.lift _) fun v t ht => ?_
    obtain ⟨-, rfl⟩ := Prod.mk.inj ht
    refine Site.change_via s fun _ heap h => ?_
    obtain ⟨heap', h, heq⟩ := bind_eq_ok.1 h
    cases heq
    exact .identified s hid (mapError_eq_ok.1 h)

/-- What an insert is made of. -/
structure Insertion where
  metadata : Metadata
  id : Value
  values : List Value

namespace Insertion

/-- The fields that are listed. -/
def fields (n : Insertion) : List PersistentField := insertFields n.metadata n.id

/-- The columns that are listed. -/
def columns (n : Insertion) : List String := n.fields.map PersistentField.column

/-- The text of the statement. -/
def sql (n : Insertion) : String := (Statement.insert n.metadata.table.name n.columns).render

end Insertion

/-- Puts the insert of an instance together. -/
def insertion (S : Schema) (h : Heap) (i : InstanceId) : Except Error Insertion := do
  let m ← S.metadata (h.typeOf i)
  let id ← h.id S i
  let values ← parameters S h i (insertFields m id)
  .ok ⟨m, id, values⟩

omit [Database δ] [Callbacks δ] in
theorem insertion_eq_ok {h : Heap} {i : InstanceId} {n : Insertion} :
    insertion S h i = .ok n ↔ S.metadata (h.typeOf i) = .ok n.metadata ∧ h.id S i = .ok n.id ∧
      parameters S h i n.fields = .ok n.values := by
  simp only [insertion, bind_eq_ok]
  constructor
  · rintro ⟨m, hm, id, hid, values, hvalues, hn⟩
    cases hn
    exact ⟨hm, hid, hvalues⟩
  · rintro ⟨hm, hid, hvalues⟩
    exact ⟨n.metadata, hm, n.id, hid, n.values, hvalues, rfl⟩

/-- What is left to do when the answer to an insert has come. -/
def afterInsert (S : Schema) (m : Metadata) (sql : String) (i : InstanceId) (id : Value)
    (result : InsertResult) : Act (Site δ) Unit :=
  if result.rows ≠ 1 then throw (fault m (.insertCount result.rows) sql none).error
  else if id.isNull then writeIdentifier S m sql i result
  else pure ()

omit [Callbacks δ] in
/-- To save an instance is to put its insert together, to send it, and to see what came of it. -/
theorem save_eq (g : Gateway) (i : InstanceId) :
    (g.save S i : Act (Site δ) Unit) = (do
      let n ← Site.look fun h => insertion S h i
      let result ← g.send n.sql (fault n.metadata .insertFailed n.sql none)
        (Database.insert g.connection n.sql n.values)
      afterInsert S n.metadata n.sql i n.id result) := by
  refine Act.ext fun s => ?_
  unfold save insertion Site.look
  simp only [Act.perform_bind, Act.perform_reading]
  cases S.metadata (s.heap.typeOf i) with
  | error => rfl
  | ok m =>
    dsimp only [bind, Except.bind]
    cases s.heap.id S i with
    | error => rfl
    | ok id =>
      dsimp only
      cases parameters S s.heap i (insertFields m id) <;> rfl

/-- An insert writes to its instance only where an identifier is missing. -/
theorem save_change (g : Gateway) (i : InstanceId) (s : Site δ) :
    (g.save S i).Via (Site.Change S) s := by
  rw [save_eq]
  refine .bind (.reading _) fun n t ht => ?_
  obtain ⟨hn, rfl⟩ := Prod.mk.inj ht
  refine .bind (send_growth g _ _ (.insert _ _ _) s).change fun result t ht => ?_
  obtain ⟨-, rfl⟩ := perform_send_ok ht
  unfold afterInsert
  split
  · exact .throw _
  · split
    · next hnull =>
      rw [Value.isNull_iff] at hnull
      exact writeIdentifier_change n.metadata _ i result (hnull ▸ (insertion_eq_ok.1 hn).2.1)
    · exact .pure _

end Gateway

end EntitySession
