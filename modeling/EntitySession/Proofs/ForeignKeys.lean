import EntitySession.Proofs.Accessors
import EntitySession.Proofs.Dirtiness

/-!
# The foreign keys of references

A reference with a column shows the foreign key that the column is to have, and the baseline of an
instance has it in the form of the column.  So a foreign key may be replaced by another value if this is
the same key and is the same in the form of the column as well (`Value.StandsFor`), and nothing can be
told from the baseline (`Heap.KeepsForeignKeys.differs`).
-/

set_option autoImplicit false

namespace EntitySession

variable {S : Schema}

/-- A value may stand for another one in a column of a type: it is the same key, and so is what it is
cast to. -/
structure Value.StandsFor (t : SqlType) (u v : Value) : Prop where
  same : (u == v) = true
  cast : ∀ w, v.cast t = .ok w → ∃ w', u.cast t = .ok w' ∧ (w' == w) = true

namespace Value.StandsFor

variable {t : SqlType} {u v w : Value}

theorem refl (t : SqlType) (v : Value) : StandsFor t v v := ⟨BEq.rfl, fun w hw => ⟨w, hw, BEq.rfl⟩⟩

theorem trans (h : StandsFor t u v) (h' : StandsFor t v w) : StandsFor t u w := by
  refine ⟨BEq.trans h.same h'.same, fun z hz => ?_⟩
  obtain ⟨z', hz', hzz⟩ := h'.cast z hz
  obtain ⟨z'', hz'', hzz'⟩ := h.cast z' hz'
  exact ⟨z'', hz'', BEq.trans hzz' hzz⟩

/-- A value in the form of the type stands for all that are the same key. -/
theorem of_cast (hu : u.cast t = .ok u) (huv : (u == v) = true) : StandsFor t u v :=
  ⟨huv, fun _ hw => ⟨u, hu, BEq.symm (Value.beq_of_cast hu (BEq.symm huv) hw)⟩⟩

end Value.StandsFor

namespace Heap

variable {h h' h'' : Heap} {i : InstanceId} {f : PersistentField × String}

/-- The field is a reference of the instance that has a column, with the type that it refers to. -/
def IsReference (S : Schema) (h : Heap) (i : InstanceId) (f : PersistentField × String) : Prop :=
  ∃ x m, h.instances[i]? = some x ∧ S.metadata x.entity = .ok m ∧ f ∈ m.references

theorem IsReference.of_keepsTypes (hf : h.IsReference S i f) (hh : h.KeepsTypes h') :
    h'.IsReference S i f := by
  obtain ⟨x, m, hx, hm, hmem⟩ := hf
  obtain ⟨y, hy, hyx⟩ := hh i x hx
  exact ⟨y, m, hy, hyx ▸ hm, hmem⟩

/-- A reference shows the foreign key that it has shown. -/
def KeepsForeignKey (S : Schema) (i : InstanceId) (f : PersistentField) (h h' : Heap) : Prop :=
  ∀ v, h.get S i f.name = .ok v → ∃ u, h'.get S i f.name = .ok u ∧ u.StandsFor f.sqlType v

theorem KeepsForeignKey.trans {f : PersistentField} (h₁ : KeepsForeignKey S i f h h')
    (h₂ : KeepsForeignKey S i f h' h'') : KeepsForeignKey S i f h h'' := by
  intro v hv
  obtain ⟨u, hu, huv⟩ := h₁ v hv
  obtain ⟨u', hu', huu⟩ := h₂ u hu
  exact ⟨u', hu', huu.trans huv⟩

theorem Extends.keepsForeignKey (h₁ : Extends h h') (i : InstanceId) (f : PersistentField) :
    KeepsForeignKey S i f h h' :=
  fun v hv => ⟨v, h₁.get hv, .refl f.sqlType v⟩

/-- All references of an instance show the foreign keys that they have shown. -/
def KeepsForeignKeys (S : Schema) (i : InstanceId) (h h' : Heap) : Prop :=
  ∀ f, h.IsReference S i f → KeepsForeignKey S i f.1 h h'

namespace KeepsForeignKeys

/-- Seen as the values of join columns the foreign keys are the same as well. -/
theorem relationValues (h₁ : KeepsForeignKeys S i h h') (hh : h.KeepsTypes h') {x : Instance}
    (hx : h.instances[i]? = some x) {rs : List RelationValue} (hrs : h.relationValues S i = .ok rs) :
    ∃ rs', h'.relationValues S i = .ok rs' ∧ List.Forall₂ (fun a b => (a == b) = true) rs' rs := by
  obtain ⟨m, hm, hvalues⟩ := relationValues_eq_ok.1 hrs
  have hone : ∀ f ∈ m.references, ∀ r : RelationValue,
      (r.target = f.2 ∧ r.column = f.1.column ∧
        ∃ v, h.get S i f.1.name = .ok v ∧ v.cast f.1.sqlType = .ok r.value) →
      ∃ r' : RelationValue, (r'.target = f.2 ∧ r'.column = f.1.column ∧
        ∃ v, h'.get S i f.1.name = .ok v ∧ v.cast f.1.sqlType = .ok r'.value) ∧ (r' == r) = true := by
    rintro f hf r ⟨htarget, hcolumn, v, hv, hcast⟩
    rw [typeOf_of_some hx] at hm
    obtain ⟨u, hu, huv⟩ := h₁ f ⟨x, m, hx, hm, hf⟩ v hv
    obtain ⟨w, hw, hwr⟩ := huv.cast _ hcast
    refine ⟨⟨f.2, f.1.column, w⟩, ⟨rfl, rfl, u, hu, hw⟩, ?_⟩
    exact RelationValue.beq_iff_alike.2 ⟨htarget.symm, hcolumn.symm, hwr⟩
  obtain ⟨rs', hrs', hsame⟩ := exists_forall₂ hvalues hone
  rw [← hh.typeOf hx] at hm
  exact ⟨rs', relationValues_eq_ok.2 ⟨m, hm, hrs'⟩, hsame⟩

/-- What agrees with its baseline still agrees with it. -/
theorem differs (h₁ : KeepsForeignKeys S i h h') (hh : h.KeepsValues S h') {x : Instance}
    (hx : h.instances[i]? = some x) {columns : List ColumnValue} {relations : List RelationValue}
    (hclean : Context.differs S h i columns relations = .ok false) :
    Context.differs S h' i columns relations = .ok false := by
  obtain ⟨current, m, hcurrent, hsame, hm, hreferences⟩ := Context.differs_eq_false.1 hclean
  refine Context.differs_eq_false.2 ⟨current, m, hh.columns i x hx current hcurrent, hsame, ?_, ?_⟩
  · rw [hh.types.typeOf hx, hm]
  · intro hm
    obtain ⟨values, hvalues, hsame⟩ := hreferences hm
    obtain ⟨values', hvalues', hforall⟩ := h₁.relationValues hh.types hx hvalues
    exact ⟨values', hvalues', by rw [sameRelations_congr hforall, hsame]⟩

end KeepsForeignKeys

/-! ## Association values -/

/-- An association value shows at its own instance only. -/
theorem read_setLink_of_ne {j : InstanceId} (hij : i ≠ j) (name field : String) (l : Link) :
    (h.setLink i name l).read S j field = h.read S j field := by
  rw [read, read, setLink_getElem?, if_neg hij]

/-- A reference shows what its association value is. -/
theorem read_reference (hR : S.ReadsReferences) (hf : h.IsReference S i f) {held : String}
    {r : Reference} (hlink : h.link? i f.1.name = some (.reference held r)) :
    h.read S i f.1.name = .ok (.reference r) := by
  obtain ⟨x, m, hx, hm, hmem⟩ := hf
  rw [read_of_some hx]
  refine (hR _ _ hm).reference f hmem x.record held r ?_
  rwa [link?, hx, Option.bind_some] at hlink

theorem link?_setLink {name : String} {l l' : Link} (hl : h.link? i name = some l) :
    (h.setLink i name l').link? i name = some l' := by
  obtain ⟨x, hx, hl⟩ := Option.bind_eq_some_iff.1 hl
  rw [link?, setLink_getElem?, if_pos rfl, hx, Option.map_some, Option.bind_some,
    Record.link?_setLink, if_pos rfl, hl, Option.map_some]

/-- To put an association value elsewhere leaves a foreign key alone. -/
theorem setLink_keepsForeignKey (hS : S.Lawful) (hR : S.ReadsReferences) (hf : h.IsReference S i f)
    {j : InstanceId} {name : String} (hne : j ≠ i ∨ name ≠ f.1.name) (l : Link) :
    KeepsForeignKey S i f.1 h (h.setLink j name l) := by
  have hread : (h.setLink j name l).read S i f.1.name = h.read S i f.1.name := by
    by_cases hji : j = i
    · subst hji
      obtain ⟨x, m, hx, hm, hmem⟩ := hf
      refine read_setLink fun r => ?_
      rw [typeOf_of_some hx]
      exact (hR _ _ hm).other f hmem r name l (hne.resolve_left (absurd rfl))
    · exact read_setLink_of_ne hji ..
  intro v hv
  refine ⟨v, ?_, .refl _ v⟩
  rw [get_setLink hS hread, hv]

/-- A reference that has not been loaded shows the key that it is to be loaded with; loaded with an
instance of its type that has this key for an identifier, it shows that. -/
theorem setLink_loaded_keepsForeignKey (hR : S.ReadsReferences) (hf : h.IsReference S i f)
    {held : String} {key id : Value} {supplier : Supplier} {t : InstanceId}
    (hlink : h.link? i f.1.name = some (.reference held (.unloaded key none supplier)))
    (htarget : (h.setLink i f.1.name
      (.reference held (.unloaded key (some (some t)) supplier))).typeOf t = f.2)
    (hid : (h.setLink i f.1.name
      (.reference held (.unloaded key (some (some t)) supplier))).id S t = .ok id)
    (hkey : (id == key) = true) :
    KeepsForeignKey S i f.1 h
      (h.setLink i f.1.name (.reference held (.unloaded key (some (some t)) supplier))) := by
  intro v hv
  obtain rfl : key = v := by
    rw [get, read_reference hR hf hlink] at hv
    exact Except.ok.inj hv
  refine ⟨id, ?_, .of_cast ?_ hkey⟩
  · rw [get, read_reference hR (hf.of_keepsTypes (setLink_keepsTypes _ _ _ _)) (link?_setLink hlink)]
    exact hid
  · -- the reference has the type that the identifier of its target has
    obtain ⟨z, m', u, hz, hm', -, hcast⟩ := id_eq_ok.1 hid
    rw [← typeOf_of_some hz, htarget] at hm'
    obtain ⟨x, m, hx, hm, hmem⟩ := hf
    obtain ⟨hfield, hrole⟩ := Metadata.mem_references.1 hmem
    rw [Mappings.resolve_reference hm hfield hrole hm']
    exact Value.cast_cast hcast

end Heap

end EntitySession
