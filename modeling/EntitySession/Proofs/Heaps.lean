import EntitySession.Hydration
import EntitySession.Proofs.Results

/-!
# What happens to a heap

Four ways for a heap to have become another one, from the strictest to the most lenient.

* `Heap.Extends`: instances were added, those that were there are as they were.  Reading a row does no
  more (`Heap.hydrate_extends`), and whatever could be read of an instance still reads the same.
* `Heap.KeepsValues`: the identifiers and the simple columns still read the same.
* `Heap.KeepsIds`: who had an identifier still has it.
* `Heap.KeepsTypes`: instances stay, and stay what they are.  Nobody can do more to a heap, the program
  itself included.

An instance is read through its own record and the identifiers of its targets; `Heap.id_eq_ok` and its
companions say what was found when a reading succeeded.
-/

set_option autoImplicit false

namespace EntitySession.Heap

variable {S : Schema} {h h' h'' : Heap} {i : InstanceId}

/-! ## What a reading has found -/

theorem typeOf_of_some {x : Instance} (hx : h.instances[i]? = some x) : h.typeOf i = x.entity := by
  rw [typeOf, hx]
  rfl

theorem read_of_some {x : Instance} (hx : h.instances[i]? = some x) (field : String) :
    h.read S i field = (S x.entity).read x.record field := by
  rw [read, hx]

theorem read_ok {field : String} {r : Reading} (h₁ : h.read S i field = .ok r) :
    ∃ x, h.instances[i]? = some x ∧ (S x.entity).read x.record field = .ok r := by
  rw [read] at h₁
  split at h₁
  · next x hx => exact ⟨x, hx, h₁⟩
  · cases h₁

/-- An identifier that can be read belongs to an instance, whose accessor gives a value that fits. -/
theorem id_eq_ok {v : Value} :
    h.id S i = .ok v ↔ ∃ x m u, h.instances[i]? = some x ∧ S.metadata x.entity = .ok m ∧
      (S x.entity).read x.record m.identifier.name = .ok (.value u) ∧
        u.cast m.identifier.sqlType = .ok v := by
  rw [id]
  simp only [bind_eq_ok]
  constructor
  · rintro ⟨m, hm, r, hr, h₁⟩
    obtain ⟨x, hx, hr⟩ := read_ok hr
    rw [typeOf_of_some hx] at hm
    cases r with
    | value u => exact ⟨x, m, u, hx, hm, hr, h₁⟩
    | reference r => cases h₁
  · rintro ⟨x, m, u, hx, hm, hr, h₁⟩
    refine ⟨m, by rw [typeOf_of_some hx, hm], .value u, ?_, h₁⟩
    rw [read_of_some hx, hr]

/-- Of an instance of a known type the field of the identifier is read, and cast. -/
theorem id_eq_ok_of_metadata {m : Metadata} (hm : S.metadata (h.typeOf i) = .ok m) {v : Value} :
    h.id S i = .ok v ↔
      ∃ u, h.read S i m.identifier.name = .ok (.value u) ∧ u.cast m.identifier.sqlType = .ok v := by
  rw [id_eq_ok]
  constructor
  · rintro ⟨x, m', u, hx, hm', hread, hcast⟩
    rw [← typeOf_of_some hx, hm, Except.ok.injEq] at hm'
    subst hm'
    exact ⟨u, (read_of_some hx _).trans hread, hcast⟩
  · rintro ⟨u, hread, hcast⟩
    obtain ⟨x, hx, hread⟩ := read_ok hread
    exact ⟨x, m, u, hx, typeOf_of_some hx ▸ hm, hread, hcast⟩

theorem key_eq_ok {k : EntityKey} :
    h.key S i = .ok k ↔ h.id S i = .ok k.id ∧ h.typeOf i = k.entity := by
  rw [key, bind_eq_ok]
  constructor
  · rintro ⟨v, hv, h₁⟩
    cases h₁
    exact ⟨hv, rfl⟩
  · rintro ⟨hid, ht⟩
    exact ⟨k.id, hid, by rw [ht]⟩

theorem exists_of_id {v : Value} (h₁ : h.id S i = .ok v) : ∃ x, h.instances[i]? = some x := by
  obtain ⟨x, _, _, hx, _⟩ := id_eq_ok.1 h₁
  exact ⟨x, hx⟩

/-- An instance is read through its own record. -/
theorem id_congr (h₁ : h.instances[i]? = h'.instances[i]?) : h.id S i = h'.id S i := by
  unfold id read typeOf
  rw [h₁]

theorem key_congr (h₁ : h.instances[i]? = h'.instances[i]?) : h.key S i = h'.key S i := by
  unfold key typeOf
  rw [id_congr h₁, h₁]

/-- A field reads as a value, or as what is seen of a reference. -/
theorem get_eq_ok {field : String} {v : Value} :
    h.get S i field = .ok v ↔ h.read S i field = .ok (.value v) ∨
      ∃ r, h.read S i field = .ok (.reference r) ∧ r.foreignKey (h.id S) = .ok v := by
  rw [get, bind_eq_ok]
  constructor
  · rintro ⟨r, hr, h₁⟩
    cases r with
    | value u =>
      cases h₁
      exact .inl hr
    | reference r => exact .inr ⟨r, hr, h₁⟩
  · rintro (hr | ⟨r, hr, h₁⟩)
    · exact ⟨_, hr, rfl⟩
    · exact ⟨_, hr, h₁⟩

theorem columnValues_eq_ok {cs : List ColumnValue} :
    h.columnValues S i = .ok cs ↔ ∃ m, S.metadata (h.typeOf i) = .ok m ∧
      List.Forall₂ (fun f c => c.column = f.column ∧ h.get S i f.name = .ok c.value)
        m.simpleFields cs := by
  have hone (f : PersistentField) (c : ColumnValue) :
      (do let v ← h.get S i f.name; Except.ok (⟨f.column, v⟩ : ColumnValue)) = .ok c ↔
        c.column = f.column ∧ h.get S i f.name = .ok c.value := by
    rw [bind_eq_ok]
    constructor
    · rintro ⟨v, hv, h₁⟩
      cases h₁
      exact ⟨rfl, hv⟩
    · rintro ⟨hc, hv⟩
      exact ⟨c.value, hv, by rw [← hc]⟩
  simp only [columnValues, bind_eq_ok, mapM_eq_ok, hone]

theorem relationValues_eq_ok {rs : List RelationValue} :
    h.relationValues S i = .ok rs ↔ ∃ m, S.metadata (h.typeOf i) = .ok m ∧
      List.Forall₂ (fun f r => r.target = f.2 ∧ r.column = f.1.column ∧
        ∃ v, h.get S i f.1.name = .ok v ∧ v.cast f.1.sqlType = .ok r.value) m.references rs := by
  have hone (f : PersistentField × String) (r : RelationValue) :
      (do let v ← h.get S i f.1.name
          let v ← v.cast f.1.sqlType
          Except.ok (⟨f.2, f.1.column, v⟩ : RelationValue)) = .ok r ↔
        r.target = f.2 ∧ r.column = f.1.column ∧
          ∃ v, h.get S i f.1.name = .ok v ∧ v.cast f.1.sqlType = .ok r.value := by
    simp only [bind_eq_ok]
    constructor
    · rintro ⟨v, hv, u, hu, h₁⟩
      cases h₁
      exact ⟨rfl, rfl, v, hv, hu⟩
    · rintro ⟨ht, hc, v, hv, hu⟩
      exact ⟨v, hv, r.value, hu, by rw [← ht, ← hc]⟩
  simp only [relationValues, bind_eq_ok, mapM_eq_ok, hone]

/-! ## Instances stay what they are -/

/-- Instances stay, and stay of their types. -/
def KeepsTypes (h h' : Heap) : Prop :=
  ∀ (i : InstanceId) (x : Instance), h.instances[i]? = some x →
    ∃ y, h'.instances[i]? = some y ∧ y.entity = x.entity

theorem KeepsTypes.refl (h : Heap) : KeepsTypes h h := fun _ x hx => ⟨x, hx, rfl⟩

theorem KeepsTypes.trans (h₁ : KeepsTypes h h') (h₂ : KeepsTypes h' h'') : KeepsTypes h h'' := by
  intro i x hx
  obtain ⟨y, hy, hyx⟩ := h₁ i x hx
  obtain ⟨z, hz, hzy⟩ := h₂ i y hy
  exact ⟨z, hz, hzy.trans hyx⟩

theorem KeepsTypes.typeOf (h₁ : KeepsTypes h h') {x : Instance} (hx : h.instances[i]? = some x) :
    h'.typeOf i = h.typeOf i := by
  obtain ⟨y, hy, hyx⟩ := h₁ i x hx
  rw [typeOf_of_some hx, typeOf_of_some hy, hyx]

/-! ## Identifiers stay -/

/-- Who had an identifier still has it. -/
def KeepsIds (S : Schema) (h h' : Heap) : Prop :=
  ∀ i v, h.id S i = .ok v → v ≠ .null → h'.id S i = .ok v

theorem KeepsIds.refl (S : Schema) (h : Heap) : KeepsIds S h h := fun _ _ hv _ => hv

theorem KeepsIds.trans (h₁ : KeepsIds S h h') (h₂ : KeepsIds S h' h'') : KeepsIds S h h'' :=
  fun i v hv hn => h₂ i v (h₁ i v hv hn) hn

/-- Who had a key still has it. -/
structure KeepsKeys (S : Schema) (h h' : Heap) : Prop where
  types : KeepsTypes h h'
  ids : KeepsIds S h h'

namespace KeepsKeys

theorem refl (S : Schema) (h : Heap) : KeepsKeys S h h := ⟨.refl h, .refl S h⟩

theorem trans (h₁ : KeepsKeys S h h') (h₂ : KeepsKeys S h' h'') : KeepsKeys S h h'' :=
  ⟨h₁.types.trans h₂.types, h₁.ids.trans h₂.ids⟩

theorem key (h₁ : KeepsKeys S h h') {k : EntityKey} (hk : h.key S i = .ok k) (hn : k.id ≠ .null) :
    h'.key S i = .ok k := by
  obtain ⟨hid, ht⟩ := key_eq_ok.1 hk
  obtain ⟨x, hx⟩ := exists_of_id hid
  exact key_eq_ok.2 ⟨h₁.ids i _ hid hn, (h₁.types.typeOf hx).trans ht⟩

end KeepsKeys

/-! ## Instances are added -/

/-- Instances were added, and those that were there are as they were. -/
def Extends (h h' : Heap) : Prop :=
  ∀ (i : InstanceId) (x : Instance), h.instances[i]? = some x → h'.instances[i]? = some x

namespace Extends

theorem refl (h : Heap) : Extends h h := fun _ _ hx => hx

theorem trans (h₁ : Extends h h') (h₂ : Extends h' h'') : Extends h h'' :=
  fun i x hx => h₂ i x (h₁ i x hx)

theorem keepsTypes (h₁ : Extends h h') : KeepsTypes h h' := fun i x hx => ⟨x, h₁ i x hx, rfl⟩

theorem read (h₁ : Extends h h') {field : String} {r : Reading} (hr : h.read S i field = .ok r) :
    h'.read S i field = .ok r := by
  obtain ⟨x, hx, hr⟩ := read_ok hr
  rw [read_of_some (h₁ i x hx), hr]

theorem id (h₁ : Extends h h') {v : Value} (hv : h.id S i = .ok v) : h'.id S i = .ok v := by
  obtain ⟨x, hx⟩ := exists_of_id hv
  rw [← hv]
  exact id_congr ((h₁ i x hx).trans hx.symm)

theorem keepsIds (S : Schema) (h₁ : Extends h h') : KeepsIds S h h' := fun _ _ hv _ => h₁.id hv

theorem typeOf (h₁ : Extends h h') {x : Instance} (hx : h.instances[i]? = some x) :
    h'.typeOf i = h.typeOf i := h₁.keepsTypes.typeOf hx

theorem key (h₁ : Extends h h') {k : EntityKey} (hk : h.key S i = .ok k) : h'.key S i = .ok k := by
  obtain ⟨hid, ht⟩ := key_eq_ok.1 hk
  obtain ⟨x, hx⟩ := exists_of_id hid
  exact key_eq_ok.2 ⟨h₁.id hid, (h₁.typeOf hx).trans ht⟩

theorem get (h₁ : Extends h h') {field : String} {v : Value} (hv : h.get S i field = .ok v) :
    h'.get S i field = .ok v := by
  rcases get_eq_ok.1 hv with hr | ⟨r, hr, hkey⟩
  · exact get_eq_ok.2 (.inl (h₁.read hr))
  · refine get_eq_ok.2 (.inr ⟨r, h₁.read hr, ?_⟩)
    cases r with
    | empty => exact hkey
    | loaded target => exact h₁.id hkey
    | unloaded key result supplier =>
      cases result with
      | none => exact hkey
      | some found =>
        cases found with
        | none => exact hkey
        | some target => exact h₁.id hkey

theorem link? (h₁ : Extends h h') {name : String} {l : Link} (hl : h.link? i name = some l) :
    h'.link? i name = some l := by
  obtain ⟨x, hx, hl⟩ := Option.bind_eq_some_iff.1 hl
  exact Option.bind_eq_some_iff.2 ⟨x, h₁ i x hx, hl⟩

theorem columnValues (h₁ : Extends h h') {x : Instance} (hx : h.instances[i]? = some x)
    {cs : List ColumnValue} (hcs : h.columnValues S i = .ok cs) :
    h'.columnValues S i = .ok cs := by
  obtain ⟨m, hm, hvalues⟩ := columnValues_eq_ok.1 hcs
  rw [← h₁.typeOf hx] at hm
  exact columnValues_eq_ok.2 ⟨m, hm, hvalues.imp fun _ _ hone => ⟨hone.1, h₁.get hone.2⟩⟩

end Extends

/-! ## Values stay -/

/-- The identifiers and the values of the simple columns are what they were. -/
structure KeepsValues (S : Schema) (h h' : Heap) : Prop where
  types : KeepsTypes h h'
  ids : ∀ i v, h.id S i = .ok v → h'.id S i = .ok v
  columns : ∀ i x, h.instances[i]? = some x → ∀ cs, h.columnValues S i = .ok cs →
    h'.columnValues S i = .ok cs

namespace KeepsValues

theorem refl (S : Schema) (h : Heap) : KeepsValues S h h :=
  ⟨.refl h, fun _ _ hv => hv, fun _ _ _ _ hcs => hcs⟩

theorem trans (h₁ : KeepsValues S h h') (h₂ : KeepsValues S h' h'') : KeepsValues S h h'' := by
  refine ⟨h₁.types.trans h₂.types, fun i v hv => h₂.ids i v (h₁.ids i v hv), ?_⟩
  intro i x hx cs hcs
  obtain ⟨y, hy, -⟩ := h₁.types i x hx
  exact h₂.columns i y hy cs (h₁.columns i x hx cs hcs)

theorem key (h₁ : KeepsValues S h h') {k : EntityKey} (hk : h.key S i = .ok k) :
    h'.key S i = .ok k := by
  obtain ⟨hid, ht⟩ := key_eq_ok.1 hk
  obtain ⟨x, hx⟩ := exists_of_id hid
  exact key_eq_ok.2 ⟨h₁.ids i _ hid, (h₁.types.typeOf hx).trans ht⟩

theorem keepsKeys (h₁ : KeepsValues S h h') : KeepsKeys S h h' :=
  ⟨h₁.types, fun i v hv _ => h₁.ids i v hv⟩

end KeepsValues

theorem Extends.keepsValues (S : Schema) (h₁ : Extends h h') : KeepsValues S h h' :=
  ⟨h₁.keepsTypes, fun _ _ hv => h₁.id hv, fun _ _ hx _ hcs => h₁.columnValues hx hcs⟩

/-! ## Reading a row -/

theorem add_extends (h : Heap) (entity : String) (record : Record) :
    Extends h (h.add entity record).2 := by
  intro i x hx
  obtain ⟨hi, -⟩ := Array.getElem?_eq_some_iff.1 hx
  rw [← hx]
  exact Array.getElem?_push_lt hi |>.trans (Array.getElem?_eq_getElem hi).symm

theorem fillCell_extends (h : Heap) (cell : CellId) (items : List InstanceId) :
    Extends h (h.fillCell cell items) := fun _ _ hx => hx

/-- The instance that a row describes: where it is, and how its record was made. -/
theorem hydrate_eq_ok {loader : Loader} {entity : String} {row : Row}
    (h₁ : h.hydrate S loader entity row = .ok (i, h')) :
    ∃ m record, S.metadata entity = .ok m ∧
      Hydration.record S loader m row h.cells.size = .ok record ∧
        h'.instances = h.instances.push ⟨entity, record⟩ ∧ i = h.instances.size := by
  rw [hydrate] at h₁
  obtain ⟨m, hm, h₁⟩ := bind_eq_ok.1 h₁
  obtain ⟨record, hrecord, h₁⟩ := bind_eq_ok.1 h₁
  cases h₁
  exact ⟨m, record, hm, hrecord, rfl, rfl⟩

theorem hydrate_extends {loader : Loader} {entity : String} {row : Row}
    (h₁ : h.hydrate S loader entity row = .ok (i, h')) : Extends h h' := by
  obtain ⟨m, record, -, -, hinstances, -⟩ := hydrate_eq_ok h₁
  intro j x hx
  rw [hinstances]
  exact add_extends h entity record j x hx

theorem hydrate_some {loader : Loader} {entity : String} {row : Row}
    (h₁ : h.hydrate S loader entity row = .ok (i, h')) :
    ∃ record, h'.instances[i]? = some ⟨entity, record⟩ := by
  obtain ⟨m, record, -, -, hinstances, rfl⟩ := hydrate_eq_ok h₁
  exact ⟨record, by rw [hinstances, Array.getElem?_push_size]⟩

/-! ## Writing an identifier -/

theorem setRecord_getElem? (h : Heap) (i j : InstanceId) (record : Record) :
    (h.setRecord i record).instances[j]? =
      if i = j then (h.instances[j]?).map fun x => { x with record := record }
      else h.instances[j]? :=
  Array.getElem?_modify ..

theorem set_eq_ok {field : String} {v : Value} (h₁ : h.set S i field v = .ok h') :
    ∃ x record, h.instances[i]? = some x ∧ (S x.entity).write x.record field v = .ok record ∧
      h' = h.setRecord i record := by
  rw [set] at h₁
  split at h₁
  · next x hx =>
    obtain ⟨record, hrecord, h₁⟩ := bind_eq_ok.1 h₁
    cases h₁
    exact ⟨x, record, hx, hrecord, rfl⟩
  · cases h₁

theorem setRecord_keepsTypes (h : Heap) (i : InstanceId) (record : Record) :
    KeepsTypes h (h.setRecord i record) := by
  intro j x hx
  rw [setRecord_getElem?, hx]
  split
  · exact ⟨_, rfl, rfl⟩
  · exact ⟨x, rfl, rfl⟩

/-- Who is given an identifier had none, so nobody loses one. -/
theorem set_keepsIds {field : String} {v : Value} (h₁ : h.set S i field v = .ok h')
    (hid : h.id S i = .ok .null) : KeepsIds S h h' := by
  obtain ⟨x, record, -, -, rfl⟩ := set_eq_ok h₁
  intro j u hu hn
  have hij : i ≠ j := by
    rintro rfl
    rw [hid] at hu
    exact hn (Except.ok.inj hu).symm
  rw [← hu]
  refine id_congr ?_
  rw [setRecord_getElem?, if_neg hij]

end EntitySession.Heap
