import EntitySession.Proofs.Bindings
import EntitySession.Proofs.Faithfulness
import EntitySession.Proofs.Resolution
import EntitySession.Proofs.Rows
import EntitySession.Proofs.Storage
import EntitySession.Proofs.Wordings

/-!
# Saving and loading

An insert goes through the fields of a type and writes a value for each; a row is gone through in the same
way, but its cells are found by the names of their columns, cast, and handed to accessors that the type has
of its own.  `Heap.restored_of_save` says that nothing is lost on this way: whatever row has the values of
an insert in its columns, the instance that is made of it has the key of the instance that was saved, the
same values in its simple columns, and the same in its join columns, though there a target that was there
has become one to be loaded.

This is for types whose accessors give back what they are given and whose instances can be made at all
(`Schema.Restorable`).  A cell is then read whatever it has, and it is not overwritten: no two columns have
one name, even without the case of letters, and no two fields.
-/

set_option autoImplicit false

namespace EntitySession

/-- A type whose instances can be made of rows. -/
structure Schema.Restorable (S : Schema) (m : Metadata) (State : Record → Prop) : Prop where
  resolves : S.metadata m.entity = .ok m
  faithful : (S m.entity).Faithful m State
  instantiable : S.constructionFault m.entity = none
  references : ∀ f target, (f, target) ∈ m.references → S.constructionFault target = none
  inverses : ∀ a ∈ m.associations, a.kind.isToOne = true → S.constructionFault a.target = none
  collections : ∀ a ∈ m.associations, a.kind.isToOne = false →
    a.collection = .list ∨ a.collection = .set

/-! ## Reading a row -/

namespace Hydration

variable {S : Schema} (loader : Loader) {m : Metadata} {State : Record → Prop} {row : Row} {r : Record}

/-- What a field reads as when it was read from a cell with a value. -/
def reading (loader : Loader) (entity : String) (f : PersistentField) (v : Value) : Reading :=
  match f.role with
  | .reference target => .reference (Binding.reference entity f.name target v loader none).toReference
  | _ => .value v

/-- A value that a field can be read from: it has the declared form, and if the field is plain, the field
reports it in some instance. -/
structure Suits (S : Schema) (State : Record → Prop) (entity : String) (f : PersistentField) (v : Value) :
    Prop where
  cast : v.cast f.sqlType = .ok v
  plain : f.isReference = false → ∃ r, State r ∧ (S entity).Reports r f.name v

/-- A value that suits a plain field is written, and read again. -/
theorem Suits.written (hS : S.Restorable m State) {f : PersistentField} (hf : f ∈ m.fields) {v : Value}
    (hv : Suits S State m.entity f v) (hplain : f.isReference = false) (hr : State r) :
    ∃ r', (S m.entity).write r f.name v = .ok r' ∧ State r' ∧
      (S m.entity).read r' f.name = .ok (.value v) ∧ (S m.entity).AgreeBut m f.name r r' := by
  obtain ⟨r₀, hr₀, hreports⟩ := hv.plain hplain
  exact hS.faithful.plain f hf hplain hr₀ hreports hr

/-- A cell with a value that suits the field is read. -/
theorem exists_placed (hS : S.Restorable m State) {f : PersistentField} (hf : f ∈ m.fields) {v : Value}
    (hv : Suits S State m.entity f v) (ownerId : Value) (hr : State r) :
    ∃ ownerId' r', Placed S loader m.entity f v ownerId r ownerId' r' ∧ State r' ∧
      (S m.entity).read r' f.name = .ok (reading loader m.entity f v) ∧
        (S m.entity).AgreeBut m f.name r r' := by
  rw [reading]
  cases hrole : f.role with
  | reference target =>
    have hmem := Metadata.mem_references.2 ⟨hf, hrole⟩
    let b := Binding.reference m.entity f.name target v loader (S.constructionFault target)
    have hb : Reference.ofBinding b target = .ok b.toReference :=
      Reference.ofBinding_eq_ok.2 ⟨rfl, rfl, hS.references f target hmem, rfl⟩
    obtain ⟨r', hbind, hr', hread, hagree⟩ := hS.faithful.reference f target hmem hr hb
    exact ⟨ownerId, r', .reference hrole hbind, hr', hread, hagree⟩
  | identifier =>
    have hplain : f.isReference = false := by rw [PersistentField.isReference, hrole]; rfl
    obtain ⟨r', hwrite, hr', hread, hagree⟩ := hv.written hS hf hplain hr
    exact ⟨v, r', .identifier hrole hwrite, hr', hread, hagree⟩
  | simple =>
    have hplain : f.isReference = false := by rw [PersistentField.isReference, hrole]; rfl
    obtain ⟨r', hwrite, hr', hread, hagree⟩ := hv.written hS hf hplain hr
    exact ⟨ownerId, r', .simple hrole hwrite, hr', hread, hagree⟩

/-- Fields are read, one after another, from a row that has values that suit them; and what was read stays,
since no two fields have one name. -/
theorem exists_readFields (hS : S.Restorable m State) {fields : List PersistentField}
    (hfields : fields ⊆ m.fields) (hnames : (fields.map PersistentField.name).Nodup)
    (hcells : ∀ f ∈ fields, ∃ v, row.named? f.column = some v ∧ Suits S State m.entity f v)
    (position : Nat) (ownerId : Value) (hr : State r) :
    ∃ ownerId' r', readFields S loader m.entity row position fields ownerId r = .ok (ownerId', r') ∧
      State r' ∧
      (∀ f ∈ fields, ∀ v, row.named? f.column = some v →
        (S m.entity).read r' f.name = .ok (reading loader m.entity f v)) ∧
      ∀ g ∈ m.fields, g.name ∉ fields.map PersistentField.name →
        (S m.entity).read r' g.name = (S m.entity).read r g.name := by
  induction fields generalizing position ownerId r with
  | nil => exact ⟨ownerId, r, rfl, hr, nofun, fun _ _ _ => rfl⟩
  | cons f fields ih =>
    obtain ⟨hf, hfields⟩ := List.cons_subset.1 hfields
    obtain ⟨hnew, hnames⟩ := List.nodup_cons.1 hnames
    obtain ⟨⟨v, hcell, hv⟩, hcells⟩ := List.forall_mem_cons.1 hcells
    obtain ⟨ownerId₁, r₁, hplaced, hr₁, hread, hagree⟩ :=
      exists_placed loader hS hf hv ownerId hr
    obtain ⟨ownerId', r', hrest, hr', hreads, hkeeps⟩ :=
      ih hfields hnames hcells (position + 1) ownerId₁ hr₁
    have hraw : row.namedOrAt? f.column position = some v := by
      rw [Row.namedOrAt?, hcell, Option.some_or]
    refine ⟨ownerId', r', readFields_cons.2 ⟨v, v, _, r₁, hraw, hv.cast, hplaced, hrest⟩, hr', ?_, ?_⟩
    · refine List.forall_mem_cons.2 ⟨fun u hu => ?_, hreads⟩
      rw [hcell, Option.some.injEq] at hu
      subst hu
      exact (hkeeps f hf hnew).trans hread
    · intro g hg hgnew
      rw [List.map_cons, List.mem_cons, not_or] at hgnew
      exact (hkeeps g hg hgnew.2).trans (hagree g hg hgnew.1)

/-- The container of an association without a column takes its binding. -/
theorem exists_container (hS : S.Restorable m State) {a : InverseAssociation} (ha : a ∈ m.associations)
    (ownerId : Value) (cell : CellId) :
    ∃ b, Binding.inverse m.entity a ownerId loader (S.constructionFault a.target) cell = .ok b ∧
      ∃ l, a.container.bind b = .ok l := by
  by_cases htoOne : a.kind.isToOne = true
  · have hshape : a.shape? = some .toOne := if_pos htoOne
    refine ⟨_, Binding.inverse_eq_ok.2 ⟨_, hshape, rfl⟩, ?_⟩
    rw [InverseAssociation.container, if_pos htoOne]
    refine ⟨_, map_eq_ok.2 ⟨_, Reference.ofBinding_eq_ok.2 ⟨rfl, rfl, ?_, rfl⟩, rfl⟩⟩
    exact hS.inverses a ha htoOne
  · have hkind := hS.collections a ha (Bool.eq_false_iff.2 htoOne)
    have hshape : a.shape? = some (.collection (if a.collection = .set then .set else .list)) := by
      rw [InverseAssociation.shape?, if_neg htoOne]
      rcases hkind with hkind | hkind <;> rw [hkind] <;> rfl
    refine ⟨_, Binding.inverse_eq_ok.2 ⟨_, hshape, rfl⟩, ?_⟩
    rw [InverseAssociation.container, if_neg htoOne]
    refine ⟨_, map_eq_ok.2 ⟨_, Collection.ofBinding_eq_ok.2 ⟨rfl, ?_, ⟨_, rfl⟩, rfl⟩, rfl⟩⟩
    simp [Collection.ofItems]

/-- Associations without a column are bound, and leave the fields with a column alone. -/
theorem exists_bindAssociations (hS : S.Restorable m State) {associations : List InverseAssociation}
    (hsub : associations ⊆ m.associations) (ownerId : Value) (cell : CellId) (hr : State r) :
    ∃ r', bindAssociations S loader m.entity ownerId cell associations r = .ok r' ∧
      ∀ f ∈ m.fields, (S m.entity).read r' f.name = (S m.entity).read r f.name := by
  induction associations generalizing cell r with
  | nil => exact ⟨r, rfl, fun _ _ => rfl⟩
  | cons a rest ih =>
    obtain ⟨ha, hrest⟩ := List.cons_subset.1 hsub
    obtain ⟨b, hb, l, hl⟩ := exists_container loader hS ha ownerId cell
    obtain ⟨r₁, hbind, hr₁, hagree⟩ := hS.faithful.inverse a ha hr hl
    obtain ⟨r', hbound, hkeeps⟩ := ih hrest (cell + 1) hr₁
    refine ⟨r', bind_eq_ok.2 ⟨b, hb, bind_eq_ok.2 ⟨r₁, hbind, hbound⟩⟩, fun f hf => ?_⟩
    exact (hkeeps f hf).trans (hagree f hf (Mappings.name_ne_field hS.resolves hf ha))

end Hydration

/-- What is written for a reference that is to be loaded is what its column had. -/
theorem Binding.foreignKey_toReference {owner field target : String} {key : Value} {loader : Loader}
    {fault : Option InstantiationFault} (idOf : InstanceId → Except Error Value) :
    (Binding.reference owner field target key loader fault).toReference.foreignKey idOf = .ok key := by
  change (if key.isNull = true then Reference.empty else _).foreignKey idOf = _
  split
  · next hnull =>
    rw [(Value.isNull_iff key).1 hnull]
    rfl
  · rfl

namespace Heap

variable {S : Schema} {m : Metadata} {State : Record → Prop} {h h' : Heap} {i j : InstanceId}

theorem get_of_reading {loader : Loader} {f : PersistentField} {v : Value}
    (hread : h.read S i f.name = .ok (Hydration.reading loader m.entity f v)) :
    h.get S i f.name = .ok v := by
  rw [Hydration.reading] at hread
  cases hrole : f.role with
  | reference target =>
    rw [hrole] at hread
    exact get_eq_ok.2 (.inr ⟨_, hread, Binding.foreignKey_toReference _⟩)
  | identifier | simple =>
    rw [hrole] at hread
    exact get_eq_ok.2 (.inl hread)

/-- A row that has values in all columns that suit the fields becomes an instance that has them. -/
theorem exists_hydrate (hS : S.Restorable m State) {row : Row}
    (hcells : ∀ f ∈ m.fields, ∃ v, row.named? f.column = some v ∧
      Hydration.Suits S State m.entity f v) (loader : Loader) (h : Heap) :
    ∃ j h', h.hydrate S loader m.entity row = .ok (j, h') ∧ h'.typeOf j = m.entity ∧
      ∀ f ∈ m.fields, ∀ v, row.named? f.column = some v →
        h'.read S j f.name = .ok (Hydration.reading loader m.entity f v) := by
  obtain ⟨fresh, hfresh⟩ : ∃ fresh, (S m.entity).construct = .ok fresh := by
    have hfault := hS.instantiable
    rw [Schema.constructionFault] at hfault
    split at hfault
    · next fresh hfresh => exact ⟨fresh, hfresh⟩
    · cases hfault
  have hsound := Mappings.sound_of_resolve hS.resolves
  obtain ⟨ownerId, filled, hfilled, hstate, hreads, -⟩ :=
    Hydration.exists_readFields loader hS (List.Subset.refl _) hsound.names_nodup hcells 0
      .null (hS.faithful.constructed hfresh)
  obtain ⟨record, hbound, hkeeps⟩ := Hydration.exists_bindAssociations loader hS
    (List.Subset.refl _) ownerId h.cells.size hstate
  have hrecord : Hydration.record S loader m row h.cells.size = .ok record :=
    Hydration.record_ok_iff.2 ⟨fresh, ownerId, filled, hfresh, hfilled, hbound⟩
  let h' := ((h.reserve m.associations.length).2.add m.entity record).2
  have hj : h'.instances[h.instances.size]? = some ⟨m.entity, record⟩ := Array.getElem?_push_size
  refine ⟨h.instances.size, h', ?_, typeOf_of_some hj, fun f hf v hv => ?_⟩
  · exact bind_eq_ok.2 ⟨m, hS.resolves, bind_eq_ok.2 ⟨record, hrecord, rfl⟩⟩
  · rw [read_of_some hj]
    exact (hkeeps f hf).trans (hreads f hf v hv)

/-- An instance has the key of another one, maybe in another heap, the same values in its simple columns
and the same in its join columns. -/
structure Restored (S : Schema) (h : Heap) (i : InstanceId) (h' : Heap) (j : InstanceId) : Prop where
  key : ∃ k, h.key S i = .ok k ∧ h'.key S j = .ok k
  columns : ∃ cs, h.columnValues S i = .ok cs ∧ h'.columnValues S j = .ok cs
  relations : ∃ rs, h.relationValues S i = .ok rs ∧ h'.relationValues S j = .ok rs

/-- Where the simple fields read the same, the simple columns do. -/
theorem exists_columnValues (hi : S.metadata (h.typeOf i) = .ok m) (hj : S.metadata (h'.typeOf j) = .ok m)
    (hfields : ∀ f ∈ m.simpleFields, ∃ v, h.get S i f.name = .ok v ∧ h'.get S j f.name = .ok v) :
    ∃ cs, h.columnValues S i = .ok cs ∧ h'.columnValues S j = .ok cs := by
  obtain ⟨cs, hcs⟩ : ∃ cs, List.Forall₂ (fun f (c : ColumnValue) =>
      (c.column = f.column ∧ h.get S i f.name = .ok c.value) ∧
        c.column = f.column ∧ h'.get S j f.name = .ok c.value) m.simpleFields cs := by
    refine exists_forall₂_of_forall fun f hf => ?_
    obtain ⟨v, hv, hv'⟩ := hfields f hf
    exact ⟨⟨f.column, v⟩, ⟨rfl, hv⟩, rfl, hv'⟩
  exact ⟨cs, columnValues_eq_ok.2 ⟨m, hi, hcs.imp fun _ _ => And.left⟩,
    columnValues_eq_ok.2 ⟨m, hj, hcs.imp fun _ _ => And.right⟩⟩

/-- Where the same is written for the references, the join columns read the same. -/
theorem exists_relationValues (hi : S.metadata (h.typeOf i) = .ok m)
    (hj : S.metadata (h'.typeOf j) = .ok m) (hfields : ∀ f ∈ m.references.map Prod.fst,
      ∃ v, (∃ u, h.get S i f.name = .ok u ∧ u.cast f.sqlType = .ok v) ∧
        ∃ u, h'.get S j f.name = .ok u ∧ u.cast f.sqlType = .ok v) :
    ∃ rs, h.relationValues S i = .ok rs ∧ h'.relationValues S j = .ok rs := by
  obtain ⟨rs, hrs⟩ : ∃ rs, List.Forall₂ (fun (f : PersistentField × String) (r : RelationValue) =>
      (r.target = f.2 ∧ r.column = f.1.column ∧
        ∃ u, h.get S i f.1.name = .ok u ∧ u.cast f.1.sqlType = .ok r.value) ∧
      r.target = f.2 ∧ r.column = f.1.column ∧
        ∃ u, h'.get S j f.1.name = .ok u ∧ u.cast f.1.sqlType = .ok r.value) m.references rs := by
    refine exists_forall₂_of_forall fun f hf => ?_
    obtain ⟨v, hv, hv'⟩ := hfields f.1 (List.mem_map_of_mem hf)
    exact ⟨⟨f.2, f.1.column, v⟩, ⟨rfl, rfl, hv⟩, rfl, rfl, hv'⟩
  exact ⟨rs, relationValues_eq_ok.2 ⟨m, hi, hrs.imp fun _ _ => And.left⟩,
    relationValues_eq_ok.2 ⟨m, hj, hrs.imp fun _ _ => And.right⟩⟩

/-- An instance whose fields read as another one writes them is the other one restored. -/
theorem restored_of_read (hm : S.metadata m.entity = .ok m) (hi : h.typeOf i = m.entity)
    (hj : h'.typeOf j = m.entity) {v : Value} (hid : h.id S i = .ok v) (loader : Loader)
    (hfields : ∀ f ∈ m.fields, ∃ v, h.written S i f = .ok v ∧ v.cast f.sqlType = .ok v ∧
      h'.read S j f.name = .ok (Hydration.reading loader m.entity f v)) : Restored S h i h' j := by
  have hsound := Mappings.sound_of_resolve hm
  have hmi : S.metadata (h.typeOf i) = .ok m := hi ▸ hm
  have hmj : S.metadata (h'.typeOf j) = .ok m := hj ▸ hm
  have hkey : h'.id S j = .ok v := by
    obtain ⟨u, hwritten, hcast, hread⟩ := hfields _ m.identifier_mem
    have huv := written_identifier hmi hid hwritten
    rw [hcast, Except.ok.injEq] at huv
    subst huv
    rw [Hydration.reading, hsound.identifier_role] at hread
    exact bind_eq_ok.2 ⟨m, hmj, bind_eq_ok.2 ⟨_, hread, hcast⟩⟩
  refine ⟨⟨⟨m.entity, v⟩, key_eq_ok.2 ⟨hid, hi⟩, key_eq_ok.2 ⟨hkey, hj⟩⟩,
    exists_columnValues hmi hmj fun f hf => ?_, exists_relationValues hmi hmj fun f hf => ?_⟩
  · obtain ⟨hf, hrole⟩ := Metadata.mem_simpleFields.1 hf
    obtain ⟨u, hwritten, -, hread⟩ := hfields f hf
    rw [written_of_simple (by rw [PersistentField.isReference, hrole]; rfl)] at hwritten
    exact ⟨u, hwritten, get_of_reading hread⟩
  · obtain ⟨⟨f, target⟩, hmem, rfl⟩ := List.mem_map.1 hf
    obtain ⟨hf, hrole⟩ := Metadata.mem_references.1 hmem
    obtain ⟨u, hwritten, hcast, hread⟩ := hfields f hf
    obtain ⟨raw, hraw, hu⟩ := bind_eq_ok.1 hwritten
    rw [if_pos (PersistentField.isReference_iff.2 ⟨_, hrole⟩)] at hu
    exact ⟨u, ⟨raw, hraw, hu⟩, u, get_of_reading hread, hcast⟩

/-- What is written for a field suits it, if plain fields have values of the declared types. -/
theorem suits_of_written {x : Instance} (hx : h.instances[i]? = some x)
    (hentity : x.entity = m.entity) (hstate : State x.record) {f : PersistentField}
    (htyped : f.isReference = false → ∀ v, h.get S i f.name = .ok v →
      v = .null ∨ v.ownType? = some f.sqlType) {v : Value} (hv : h.written S i f = .ok v) :
    Hydration.Suits S State m.entity f v := by
  cases hplain : f.isReference with
  | false =>
    rw [written_of_simple hplain] at hv
    refine ⟨Value.cast_of_ownType (htyped hplain v hv), fun _ => ⟨x.record, hstate, ?_⟩⟩
    rw [EntityClass.Reports, ← hentity, ← read_of_some hx]
    exact (get_eq_ok.1 hv).imp_right fun ⟨r, hread, hkey⟩ => ⟨r, _, hread, hkey⟩
  | true =>
    obtain ⟨raw, -, hcast⟩ := bind_eq_ok.1 hv
    rw [hplain, if_pos rfl] at hcast
    exact ⟨Value.cast_cast hcast, fun hplain' => by rw [hplain] at hplain'; cases hplain'⟩

end Heap

/-! ## Saving -/

variable {δ : Type} [Database δ] {S : Schema} {m : Metadata} {State : Record → Prop}
  {s : Site (Overheard δ)} {i : InstanceId}

/-- The only thing that is said to save an instance with an identifier is an insert, with what is written
for each field. -/
theorem Gateway.save_heard {g : Gateway} {v : Value} (hm : S.metadata (s.heap.typeOf i) = .ok m)
    (hid : s.heap.id S i = .ok v) (hv : v ≠ .null) {c : ConnectionId} {sql : String}
    {values : List Value}
    (h : ((g.save S i).perform s).2.outside.said = s.outside.said ++ [.insert c sql values]) :
    sql = (Statement.insert m.table.name m.columnNames).render ∧
      List.Forall₂ (fun f v => s.heap.written S i f = .ok v) m.fields values := by
  let IsInsert (u : Utterance) : Prop := ∃ values,
    u = .insert g.connection (Statement.insert m.table.name m.columnNames).render values ∧
      List.Forall₂ (fun f v => s.heap.written S i f = .ok v) m.fields values
  have hheard : Site.Says IsInsert s ((g.save S i).perform s).2 := by
    refine .of_via (save_utters g i s fun m' id values hm' hid' hvalues => ?_)
    cases hm.symm.trans hm'
    cases hid.symm.trans hid'
    rw [insertFields_of_ne_null hv] at hvalues ⊢
    exact ⟨values, rfl, parameters_eq_ok.1 hvalues⟩
  obtain ⟨us, hus, hinserts⟩ := hheard
  obtain rfl := List.append_cancel_left (hus.symm.trans h)
  obtain ⟨values', hinsert, hwritten⟩ := hinserts _ (List.mem_singleton_self _)
  cases hinsert
  exact ⟨rfl, hwritten⟩

namespace Heap

/-- **Saving and loading is lossless.** If saving an instance with an identifier, whose plain fields have
values of the declared types, says an insert, then every row that has the values of the insert in its
columns, in whatever order and letters, becomes an instance with the same key, the same values in the
simple columns and the same in the join columns. -/
theorem restored_of_save (hS : S.Restorable m State) {g : Gateway} {x : Instance}
    (hx : s.heap.instances[i]? = some x) (hentity : x.entity = m.entity) (hstate : State x.record)
    {v : Value} (hid : s.heap.id S i = .ok v) (hv : v ≠ .null)
    (htyped : ∀ f ∈ m.fields, f.isReference = false → ∀ u, s.heap.get S i f.name = .ok u →
      u = .null ∨ u.ownType? = some f.sqlType) {c : ConnectionId} {sql : String} {values : List Value}
    (hsaid : ((g.save S i).perform s).2.outside.said = s.outside.said ++ [.insert c sql values]) :
    sql = (Statement.insert m.table.name m.columnNames).render ∧
      ∀ row : Row, row.Has m.columnNames values → ∀ (loader : Loader) (h : Heap),
        ∃ j h', h.hydrate S loader m.entity row = .ok (j, h') ∧ Restored S s.heap i h' j := by
  have htype : s.heap.typeOf i = m.entity := (typeOf_of_some hx).trans hentity
  obtain ⟨hsql, hwritten⟩ := Gateway.save_heard (htype ▸ hS.resolves) hid hv hsaid
  refine ⟨hsql, fun row hrow loader h => ?_⟩
  have hlength : m.columnNames.length = values.length := (List.length_map _).trans hwritten.length_eq
  have hcells : ∀ f ∈ m.fields, ∃ u, s.heap.written S i f = .ok u ∧ row.named? f.column = some u ∧
      Hydration.Suits S State m.entity f u := by
    intro f hf
    obtain ⟨u, hmem, hu⟩ := exists_mem_zip_of_forall₂ hwritten hf
    have hentry : (f.column, u) ∈ m.columnNames.zip values := by
      rw [Metadata.columnNames, List.zip_map_left]
      exact List.mem_map.2 ⟨(f, u), hmem, rfl⟩
    refine ⟨u, hu, hrow.named? hlength (Mappings.nodup_fold_of_resolve hS.resolves) hentry, ?_⟩
    exact suits_of_written hx hentity hstate (htyped f hf) hu
  obtain ⟨j, h', hhydrate, hj, hread⟩ :=
    exists_hydrate hS (fun f hf => (hcells f hf).imp fun _ => And.right) loader h
  refine ⟨j, h', hhydrate, restored_of_read hS.resolves htype hj hid loader fun f hf => ?_⟩
  obtain ⟨u, hu, hcell, hsuits⟩ := hcells f hf
  exact ⟨u, hu, hsuits.cast, hread f hf u hcell⟩

end Heap

/-! ### A person who was saved -/

deriving instance DecidableEq for Utterance

namespace Keepers

/-- The seventh person has a guide who is there and a favourite animal who is not. -/
def led : Record :=
  ((people.initial.setValue "number" (.bigInt 7)).setLink "guide"
    (.reference "Person" (.loaded 0))).setLink "favourite"
    (.reference "Animal" (.unloaded (.text "rex") none (.outside 0)))

/-- The person and the guide. -/
def folk : Heap :=
  let guide := people.initial.setValue "number" (.bigInt 3)
  ((Heap.empty.add "Person" guide).2.add "Person" led).2

/-- Where the person is saved. -/
def counter : Site (Overheard Village) := ⟨folk, ⟨{}, []⟩, []⟩

/-- What is heard when the person is saved. -/
def heard : List Utterance := ((Gateway.save ⟨0, false⟩ schema 1).perform counter).2.outside.said

/-- What was heard, in another order and in other letters. -/
def gossip : Row :=
  .of ["FAVOURITE_TAG", "Person_No", "guide_id"] [.text "rex", .bigInt 7, .bigInt 3]

/-- The metadata of people, but for the description of their table. -/
def registered (table : Table) : Metadata where
  entity := "Person"
  table := table
  fields :=
    [⟨"number", "person_no", .bigInt, .identifier⟩, ⟨"guide", "guide_id", .bigInt, .reference "Person"⟩,
      ⟨"favourite", "favourite_tag", .text, .reference "Animal"⟩]
  idIndex := ⟨0, by decide⟩
  associations :=
    [⟨"guided", .oneToMany, "Person", .list, .foreignKey "guide_id"⟩,
      ⟨"animals", .oneToMany, "Animal", .list, .foreignKey "kept_by"⟩]

theorem metadata_person : ∃ table, schema.metadata "Person" = .ok (registered table) := by
  have hparts : (schema.metadata "Person").toOption.map (fun m => registered m.table) =
      (schema.metadata "Person").toOption := by decide +kernel
  obtain ⟨m, hm⟩ := exists_of_isOk (show (schema.metadata "Person").isOk = true by decide +kernel)
  rw [hm] at hparts
  exact ⟨m.table, hm.trans (congrArg Except.ok (Option.some.inj hparts).symm)⟩

/-- People hold everything as they should. -/
theorem mirrors_people (table : Table) : people.Mirrors (registered table) where
  plain := by
    rintro f (_ | ⟨_, _ | ⟨_, _ | ⟨_, ⟨⟩⟩⟩⟩) hplain
    · exact .inl rfl
    · cases hplain
    · cases hplain
  references := by
    rintro f target (_ | ⟨_, _ | ⟨_, ⟨⟩⟩⟩)
    · exact ⟨_, rfl, fun _ => rfl⟩
    · exact ⟨_, rfl, fun _ => rfl⟩
  inverses := by
    rintro a (_ | ⟨_, _ | ⟨_, ⟨⟩⟩⟩)
    · exact ⟨_, rfl, fun _ => rfl⟩
    · exact ⟨_, rfl, fun _ => rfl⟩
  bindable := rfl

/-- People are made of rows. -/
theorem restorable {table : Table} (hm : schema.metadata "Person" = .ok (registered table)) :
    schema.Restorable (registered table) people.Holds where
  resolves := hm
  faithful := Declaration.faithful (mirrors_people table)
  instantiable := rfl
  references := by
    rintro f target (_ | ⟨_, _ | ⟨_, ⟨⟩⟩⟩)
    · rfl
    · rfl
  inverses := by
    rintro a (_ | ⟨_, _ | ⟨_, ⟨⟩⟩⟩) htoOne
    · cases htoOne
    · cases htoOne
  collections := by
    rintro a (_ | ⟨_, _ | ⟨_, ⟨⟩⟩⟩) _
    · exact .inl rfl
    · exact .inl rfl

/-- The names of the columns are put back in order by the case of their letters being put aside. -/
theorem has_gossip :
    gossip.Has ["person_no", "guide_id", "favourite_tag"] [.bigInt 7, .bigInt 3, .text "rex"] where
  size := rfl
  entries := by
    have hentries : (gossip.entries.map fun e => (Text.fold e.1, e.2)) =
        [("favourite_tag", .text "rex")] ++ [("person_no", .bigInt 7), ("guide_id", .bigInt 3)] := by
      decide +kernel
    have hsaid : (["person_no", "guide_id", "favourite_tag"].zip
        [Value.bigInt 7, .bigInt 3, .text "rex"]).map (fun e => (Text.fold e.1, e.2)) =
        [("person_no", .bigInt 7), ("guide_id", .bigInt 3)] ++ [("favourite_tag", .text "rex")] := by
      decide +kernel
    rw [hentries, hsaid]
    exact List.perm_append_comm

/-- The person comes back from what was heard. -/
theorem restored_of_save_folk :
    heard = [.insert 0 "INSERT INTO people (person_no, guide_id, favourite_tag) VALUES (?, ?, ?)"
      [.bigInt 7, .bigInt 3, .text "rex"]] ∧
      ∃ j h', folk.hydrate schema .outside "Person" gossip = .ok (j, h') ∧
        Heap.Restored schema folk 1 h' j := by
  have hheard : heard = counter.outside.said ++
      [.insert 0 "INSERT INTO people (person_no, guide_id, favourite_tag) VALUES (?, ?, ?)"
        [.bigInt 7, .bigInt 3, .text "rex"]] := by decide +kernel
  obtain ⟨table, hm⟩ := metadata_person
  have hnumber : people.Holds (people.initial.setValue "number" (.bigInt 7)) :=
    people.holds_initial.setValue nofun
  have hid : folk.id schema 1 = .ok (.bigInt 7) :=
    bind_eq_ok.2 ⟨_, hm, bind_eq_ok.2 ⟨.value (.bigInt 7), rfl, rfl⟩⟩
  have hsaved := Heap.restored_of_save (s := counter) (restorable hm) (x := ⟨"Person", led⟩) rfl rfl
    ((hnumber.setLink "guide" _).setLink "favourite" _) hid nofun ?_ hheard
  · exact ⟨hheard, hsaved.2 gossip has_gossip .outside folk⟩
  · rintro f (_ | ⟨_, _ | ⟨_, _ | ⟨_, ⟨⟩⟩⟩⟩) hplain u hu
    · cases (show folk.get schema 1 "number" = .ok (.bigInt 7) from rfl).symm.trans hu
      exact .inr rfl
    · cases hplain
    · cases hplain

end Keepers

end EntitySession
