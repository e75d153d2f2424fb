import EntitySession.Proofs.Inserting
import EntitySession.Proofs.Metadata

/-!
# What a write sends

Each of the three writes of a session sends one statement, if it succeeds at all.  Which one is said by
`Exchange.Inserts`, `Exchange.Updates` and `Exchange.Deletes`: the columns, the values that go with
them, and the row that is meant.  The value written for a field is `Heap.written`: what the field reads
as, for a reference in the form of the identifier that it refers to.

An update lists the simple columns first and the references after them, which is not the order of the
declaration.  What counts is that it lists each of them once (`Session.updateColumns_ok`).
-/

set_option autoImplicit false

namespace EntitySession

variable {S : Schema}

/-! ## Values that are written -/

/-- The value that is written for a field. -/
def Heap.written (S : Schema) (h : Heap) (i : InstanceId) (f : PersistentField) :
    Except Error Value := do
  let v ← h.get S i f.name
  if f.isReference then v.cast f.sqlType else .ok v

theorem Heap.written_of_simple {h : Heap} {i : InstanceId} {f : PersistentField}
    (hf : f.isReference = false) : h.written S i f = h.get S i f.name := by
  rw [written, hf]
  cases h.get S i f.name <;> rfl

theorem Heap.written_of_reference {h : Heap} {i : InstanceId} {f : PersistentField} {u : Value}
    (hf : f.isReference = true) :
    h.written S i f = .ok u ↔ ∃ v, h.get S i f.name = .ok v ∧ v.cast f.sqlType = .ok u := by
  rw [written, hf]
  exact bind_eq_ok

/-- The values of the simple columns are what is written for the simple fields. -/
theorem Heap.columnValues_eq_written {h : Heap} {i : InstanceId} {columns : List ColumnValue} :
    h.columnValues S i = .ok columns ↔ ∃ m, S.metadata (h.typeOf i) = .ok m ∧
      List.Forall₂ (fun f c => c.column = f.column ∧ h.written S i f = .ok c.value)
        m.simpleFields columns := by
  rw [columnValues_eq_ok]
  refine exists_congr fun m => and_congr_right fun _ => forall₂_congr_of_mem fun f hf c => ?_
  have hplain : f.isReference = false := by
    rw [PersistentField.isReference, (Metadata.mem_simpleFields.1 hf).2]
    rfl
  rw [written_of_simple hplain]

/-- The values of the join columns are what is written for the references. -/
theorem Heap.relationValues_eq_written {h : Heap} {i : InstanceId} {relations : List RelationValue} :
    h.relationValues S i = .ok relations ↔ ∃ m, S.metadata (h.typeOf i) = .ok m ∧
      List.Forall₂ (fun f r => r.target = f.2 ∧ r.column = f.1.column ∧
        h.written S i f.1 = .ok r.value) m.references relations := by
  rw [relationValues_eq_ok]
  refine exists_congr fun m => and_congr_right fun _ => forall₂_congr_of_mem fun f hf r => ?_
  have hreference : f.1.isReference = true :=
    PersistentField.isReference_iff.2 ⟨f.2, (Metadata.mem_references.1 hf).2⟩
  rw [written_of_reference hreference]

/-- If there is an identifier, a form of it is written for its field. -/
theorem Heap.exists_written_identifier {h : Heap} {i : InstanceId} {m : Metadata} {id : Value}
    (hm : S.metadata (h.typeOf i) = .ok m) (hid : h.id S i = .ok id) :
    ∃ v, h.written S i m.identifier = .ok v ∧ v.cast m.identifier.sqlType = .ok id := by
  have hplain : m.identifier.isReference = false := by
    rw [PersistentField.isReference, (Mappings.sound_of_resolve hm).identifier_role]
    rfl
  obtain ⟨v, hread, hcast⟩ := (Heap.id_eq_ok_of_metadata hm).1 hid
  exact ⟨v, (Heap.written_of_simple hplain).trans (Heap.get_eq_ok.2 (.inl hread)), hcast⟩

/-- What is written for the identifier is the identifier, once it is cast to the declared type. -/
theorem Heap.written_identifier {h : Heap} {i : InstanceId} {m : Metadata} {id v : Value}
    (hm : S.metadata (h.typeOf i) = .ok m) (hid : h.id S i = .ok id)
    (hv : h.written S i m.identifier = .ok v) : v.cast m.identifier.sqlType = .ok id := by
  obtain ⟨u, hu, hcast⟩ := Heap.exists_written_identifier hm hid
  exact Except.ok.inj (hu.symm.trans hv) ▸ hcast

/-- With an identifier all columns are inserted. -/
theorem Gateway.insertFields_of_ne_null {m : Metadata} {id : Value} (hn : id ≠ .null) :
    insertFields m id = m.fields := by
  rw [insertFields, Bool.eq_false_iff.2 fun h => hn ((Value.isNull_iff id).1 h)]
  rfl

/-- The parameters of a list of fields are what is written for them. -/
theorem Gateway.parameters_eq_ok {h : Heap} {i : InstanceId} {fields : List PersistentField}
    {values : List Value} :
    parameters S h i fields = .ok values ↔
      List.Forall₂ (fun f v => h.written S i f = .ok v) fields values := by
  simp only [parameters, Heap.getMany, bind_eq_ok, mapM_eq_ok, List.forall₂_map_left_iff]
  induction fields generalizing values with
  | nil =>
    constructor
    · rintro ⟨us, hus, hvs⟩
      cases hus
      cases hvs
      exact .nil
    · intro hvs
      cases hvs
      exact ⟨[], .nil, .nil⟩
  | cons f fields ih =>
    constructor
    · rintro ⟨us, hus, hvs⟩
      cases hus with
      | cons hu hus =>
        cases hvs with
        | cons hv hvs => exact .cons (bind_eq_ok.2 ⟨_, hu, hv⟩) (ih.1 ⟨_, hus, hvs⟩)
    · intro hvs
      cases hvs with
      | cons hv hvs =>
        obtain ⟨u, hu, hv⟩ := bind_eq_ok.1 hv
        obtain ⟨us, hus, hvs⟩ := ih.2 hvs
        exact ⟨u :: us, .cons hu hus, .cons hv hvs⟩

/-- The columns of an update: each of those other than the identifier's, with the value that is
written for its field. -/
theorem Session.updateColumns_ok {h : Heap} {i : InstanceId} {columns : List ColumnValue}
    (hc : Session.updateColumns S h i = .ok columns) :
    ∃ m fields, S.metadata (h.typeOf i) = .ok m ∧ fields.Perm m.nonIdFields ∧
      List.Forall₂ (fun f c => c.column = f.column ∧ h.written S i f = .ok c.value)
        fields columns := by
  obtain ⟨simple, hsimple, hc⟩ := bind_eq_ok.1 hc
  obtain ⟨relations, hrelations, hc⟩ := bind_eq_ok.1 hc
  cases hc
  obtain ⟨m, hm, hsimple⟩ := Heap.columnValues_eq_written.1 hsimple
  obtain ⟨m', hm', hrelations⟩ := Heap.relationValues_eq_written.1 hrelations
  rw [hm] at hm'
  cases hm'
  have hwritten := (Mappings.sound_of_resolve hm).written_perm
  refine ⟨m, m.simpleFields ++ m.references.map Prod.fst, hm, hwritten, ?_⟩
  refine List.rel_append hsimple ?_
  rw [List.forall₂_map_left_iff, List.forall₂_map_right_iff]
  exact hrelations.imp fun f r hfr => hfr.2

/-! ## The statements -/

namespace Exchange

/-- The insert of an instance was sent and done: it lists every column of the type, each with what is
written for its field. -/
def Inserts (S : Schema) (h : Heap) (c : ConnectionId) (i : InstanceId) (x : Exchange) : Prop :=
  ∃ m values result, S.metadata (h.typeOf i) = .ok m ∧
    List.Forall₂ (fun f v => h.written S i f = .ok v) m.fields values ∧ result.rows = 1 ∧
      x = .insert c (Statement.insert m.table.name m.columnNames).render values (.ok result)

/-- The update of an instance under a key was sent and done: in the row with the identifier of the key,
it sets every column other than the identifier's, each once and to what is written for its field. -/
def Updates (S : Schema) (h : Heap) (c : ConnectionId) (e : EntityKey × InstanceId) (x : Exchange) :
    Prop :=
  ∃ m fields values n, S.metadata e.1.entity = .ok m ∧ fields.Perm m.nonIdFields ∧
    (fields.map PersistentField.column).Nodup ∧
      List.Forall₂ (fun f v => h.written S e.2 f = .ok v) fields values ∧
        x = .execute c (Statement.update m.table.name (fields.map PersistentField.column)
          m.identifier.column).render (values ++ [e.1.id]) (.ok n)

/-- The delete of the row with a key was sent and done. -/
def Deletes (S : Schema) (c : ConnectionId) (k : EntityKey) (x : Exchange) : Prop :=
  ∃ m n, S.metadata k.entity = .ok m ∧
    x = .execute c (Statement.delete m.table.name m.identifier.column).render [k.id] (.ok n)

end Exchange

/-- Statements were sent, and nothing became of the instances. -/
structure Site.Sends {δ : Type} (s t : Site (Recorded δ)) (xs : List Exchange) : Prop where
  heap : t.heap = s.heap
  exchanges : t.outside.exchanges = s.outside.exchanges ++ xs

namespace Site.Sends

variable {δ : Type} {s t u : Site (Recorded δ)} {xs ys : List Exchange}

theorem refl (s : Site (Recorded δ)) : s.Sends s [] := ⟨rfl, (List.append_nil _).symm⟩

theorem trans (h : s.Sends t xs) (h' : t.Sends u ys) : s.Sends u (xs ++ ys) :=
  ⟨h'.heap.trans h.heap, by rw [h'.exchanges, h.exchanges, List.append_assoc]⟩

end Site.Sends

theorem Gateway.sent_sends {δ : Type} (g : Gateway) (s : Site (Recorded δ)) (outside : δ) (sql : String)
    (xs : List Exchange) : s.Sends (g.sent s outside sql xs) xs := ⟨rfl, rfl⟩

/-! ## What the gateway sends -/

namespace Gateway

variable {δ : Type} [Database δ] {g : Gateway} {s t : Site (Recorded δ)}

/-- An instance with an identifier is inserted with all its columns. -/
theorem save_ok {i : InstanceId} (hid : s.heap.id S i ≠ .ok .null)
    (h : (g.save S i).perform s = (.ok (), t)) :
    ∃ x, x.Inserts S s.heap g.connection i ∧ s.Sends t [x] := by
  cases saving_of_save h with
  | @sent n outside answer r t hn _ hsettled =>
    obtain ⟨hm, hi, hvalues⟩ := insertion_eq_ok.1 hn
    have hassigned : n.id ≠ .null := fun hnull => hid (hnull ▸ hi)
    cases hsettled with
    | generated _ hnull => exact absurd hnull hassigned
    | @assigned result hrows _ =>
      have hfields : n.fields = n.metadata.fields := insertFields_of_ne_null hassigned
      have hsql : n.sql = (Statement.insert n.metadata.table.name n.metadata.columnNames).render := by
        rw [Insertion.sql, Insertion.columns, hfields]
        rfl
      rw [hfields] at hvalues
      refine ⟨_, ⟨n.metadata, n.values, result, hm, parameters_eq_ok.1 hvalues, hrows, rfl⟩, ?_⟩
      rw [← hsql]
      exact sent_sends ..

/-- An instance without an identifier is inserted without it, and is given the one that the database
has generated. -/
theorem save_generated_ok {i : InstanceId} (hid : s.heap.id S i = .ok .null)
    (h : (g.save S i).perform s = (.ok (), t)) :
    ∃ m values result v id, S.metadata (s.heap.typeOf i) = .ok m ∧ result.rows = 1 ∧
      result.generatedKey? = some v ∧ v.cast m.identifier.sqlType = .ok id ∧
      s.heap.set S i m.identifier.name id = .ok t.heap ∧
      t.outside.exchanges = s.outside.exchanges ++ [.insert g.connection
        (Statement.insert m.table.name (m.nonIdFields.map PersistentField.column)).render values
        (.ok result)] := by
  cases saving_of_save h with
  | @sent n outside answer r t hn _ hsettled =>
    obtain ⟨m, id, values⟩ := n
    obtain ⟨hm, hi, -⟩ := insertion_eq_ok.1 hn
    obtain rfl : id = .null := Except.ok.inj (hi.symm.trans hid)
    cases hsettled with
    | assigned _ hassigned => exact absurd rfl hassigned
    | generated hrows _ hkey hcast hset =>
      exact ⟨m, values, _, _, _, hm, hrows, hkey, hcast, hset, rfl⟩

theorem update_ok {k : EntityKey} {columns : List ColumnValue} {n : Nat} (hc : columns ≠ [])
    (h : (g.update S k columns).perform s = (.ok n, t)) :
    ∃ m, S.metadata k.entity = .ok m ∧
      s.Sends t [.execute g.connection
        (Statement.update m.table.name (columns.map ColumnValue.column) m.identifier.column).render
        (columns.map ColumnValue.value ++ [k.id]) (.ok n)] := by
  rw [update, if_neg (by simpa using hc)] at h
  obtain ⟨m, u, hu, h⟩ := Act.perform_bind_ok.1 h
  obtain ⟨hm, rfl⟩ := Prod.mk.inj hu
  obtain ⟨outside, rfl⟩ := send_ok h
  exact ⟨m, hm, sent_sends ..⟩

/-- An update without columns sends nothing. -/
theorem update_sends {k : EntityKey} {columns : List ColumnValue} {n : Nat}
    (h : (g.update S k columns).perform s = (.ok n, t)) :
    columns = [] ∧ s.Sends t [] ∨ ∃ m rows, S.metadata k.entity = .ok m ∧
      s.Sends t [.execute g.connection
        (Statement.update m.table.name (columns.map ColumnValue.column) m.identifier.column).render
        (columns.map ColumnValue.value ++ [k.id]) (.ok rows)] := by
  by_cases hcolumns : columns = []
  · subst hcolumns
    cases h
    exact .inl ⟨rfl, .refl _⟩
  · obtain ⟨m, hm, hsends⟩ := update_ok hcolumns h
    exact .inr ⟨m, n, hm, hsends⟩

theorem update_heap {k : EntityKey} {columns : List ColumnValue} {n : Nat}
    (h : (g.update S k columns).perform s = (.ok n, t)) : t.heap = s.heap := by
  rcases update_sends h with ⟨-, hsends⟩ | ⟨_, _, -, hsends⟩ <;> exact hsends.heap

theorem deleteByKey_ok {k : EntityKey} {n : Nat} (h : (g.deleteByKey S k).perform s = (.ok n, t)) :
    ∃ x, x.Deletes S g.connection k ∧ s.Sends t [x] := by
  obtain ⟨m, u, hu, h⟩ := Act.perform_bind_ok.1 h
  obtain ⟨hm, rfl⟩ := Prod.mk.inj hu
  obtain ⟨outside, rfl⟩ := send_ok h
  exact ⟨_, ⟨m, n, hm, rfl⟩, sent_sends ..⟩

end Gateway

end EntitySession
