import EntitySession.Key
import EntitySession.Proofs.Results
import Mathlib.Data.List.Nodup

/-!
# What a resolved mapping is like

The metadata of a type were checked when they were resolved.  Everything later modules rely on is
collected here:

* the field at the position of the identifier has its role (`Metadata.Sound.identifier_role`), and no
  other field has (`Metadata.Sound.eq_identifier`, `Metadata.Sound.nonIdFields_eq`);
* no two parts of the type have one name, and no two fields one column;
* the fields other than the identifier are the simple ones and the references, each once
  (`Metadata.Sound.written_perm`);
* a reference has the type of the identifier that it refers to (`Mappings.resolve_reference`);
* a key has the identifier in its declared form (`EntityKey.of_eq_ok`).
-/

set_option autoImplicit false

namespace EntitySession

/-! ## The parts of a mapping -/

namespace Mappings

/-- The name of the declared field that a part comes from. -/
def Part.name : Part → String
  | .persistent f _ _ => f.name
  | .inverse a => a.field

/-- What a declared field has become: a field with a column that is called as the field says, or an
association. -/
inductive Resolved (ms : Mappings) (f : Field) : Part → Prop
  | simple {column : Column} {g : PersistentField} (ha : f.association = none)
      (hn : g.name = f.name) (hc : column.name = g.column)
      (hr : g.role = if f.isId then .identifier else .simple) (ht : g.sqlType = f.sqlType) :
      Resolved ms f (.persistent g column none)
  | reference {column : Column} {g : PersistentField} {key : ForeignKey} {a : Association} {i : Field}
      (ha : f.association = some a) (hn : g.name = f.name) (hc : column.name = g.column)
      (hr : g.role = .reference a.target) (hi : (ms a.target).idFields.head? = some i)
      (ht : g.sqlType = i.sqlType) :
      Resolved ms f (.persistent g column (some key))
  | inverse {a : Association} {b : InverseAssociation} (ha : f.association = some a)
      (hn : b.field = f.name) : Resolved ms f (.inverse b)

theorem targetIdType_eq_ok {ms : Mappings} {entity field target : String} {t : SqlType} :
    targetIdType ms entity field target = .ok t ↔ (ms target).marked = true ∧
      ∃ i, (ms target).idFields.head? = some i ∧ t = i.sqlType := by
  rw [targetIdType]
  cases hmarked : (ms target).marked with
  | false => simp [refuse]
  | true =>
    cases (ms target).idFields with
    | nil => simp [refuse]
    | cons i rest => simp [eq_comm]

theorem resolveField_resolved {ms : Mappings} {entity : String} {f : Field} {p : Part}
    (h : resolveField ms entity f = .ok p) : Resolved ms f p := by
  rw [resolveField] at h
  split at h
  · next ha =>
    obtain ⟨_, -, h⟩ := bind_eq_ok.1 h
    cases h
    exact .simple ha rfl rfl rfl rfl
  · next a ha =>
    split at h
    · obtain ⟨_, -, h⟩ := bind_eq_ok.1 h
      obtain ⟨t, ht, h⟩ := bind_eq_ok.1 h
      obtain ⟨-, i, hi, rfl⟩ := targetIdType_eq_ok.1 ht
      cases h
      exact .reference ha rfl rfl rfl hi rfl
    · obtain ⟨_, -, h⟩ := bind_eq_ok.1 h
      obtain ⟨_, -, h⟩ := bind_eq_ok.1 h
      cases h
      exact .inverse ha rfl

theorem Resolved.name {ms : Mappings} {f : Field} {p : Part} (h : Resolved ms f p) :
    p.name = f.name := by
  cases h <;> assumption

/-- A declared field that is marked as the identifier and is no association becomes a field with the role of
the identifier. -/
theorem Resolved.exists_identifier {ms : Mappings} {f : Field} {p : Part} (h : Resolved ms f p)
    (hsimple : f.isSimple = true) (hid : f.isId = true) :
    ∃ g, p.field? = some g ∧ g.role = .identifier := by
  have ha : f.association = none := Option.isNone_iff_eq_none.1 hsimple
  cases h with
  | simple _ _ _ hr => exact ⟨_, rfl, by rw [hr, if_pos hid]⟩
  | reference ha' | inverse ha' =>
    rw [ha] at ha'
    cases ha'

/-- A list that is gone through with the names seen so far: no name of it is repeated or was seen before. -/
theorem nodup_and_unseen_cons {α β : Type} {name : α → β} {a : α} {as : List α} {seen : List β} :
    (((a :: as).map name).Nodup ∧ ∀ b ∈ a :: as, name b ∉ seen) ↔
      name a ∉ seen ∧ (as.map name).Nodup ∧ ∀ b ∈ as, name b ∉ name a :: seen := by
  rw [List.map_cons, List.nodup_cons, List.forall_mem_cons]
  constructor
  · rintro ⟨⟨hname, hnodup⟩, ha, has⟩
    refine ⟨ha, hnodup, fun b hb hmem => ?_⟩
    rcases List.mem_cons.1 hmem with heq | hmem
    · exact hname (List.mem_map.2 ⟨b, hb, heq⟩)
    · exact has b hb hmem
  · rintro ⟨ha, hnodup, has⟩
    refine ⟨⟨fun hmem => ?_, hnodup⟩, ha, fun b hb hmem => has b hb (List.mem_cons_of_mem _ hmem)⟩
    obtain ⟨b, hb, heq⟩ := List.mem_map.1 hmem
    exact has b hb (heq ▸ List.mem_cons_self)

/-- Fields are accepted if each of them becomes a part, their names differ, and none was seen before. -/
theorem resolveFields_eq_ok {ms : Mappings} {entity : String} {fields : List Field}
    {seen : List String} {parts : List Part} :
    resolveFields ms entity seen fields = .ok parts ↔
      List.Forall₂ (fun f p => resolveField ms entity f = .ok p) fields parts ∧
        (fields.map Field.name).Nodup ∧ ∀ f ∈ fields, f.name ∉ seen := by
  induction fields generalizing seen parts with
  | nil => simp [resolveFields, eq_comm]
  | cons f rest ih =>
    rw [resolveFields, nodup_and_unseen_cons, ← List.contains_iff_mem]
    by_cases hseen : seen.contains f.name = true
    · rw [if_pos hseen]
      exact ⟨nofun, fun h => absurd hseen h.2.1⟩
    · rw [if_neg hseen]
      simp only [bind_eq_ok, ih]
      constructor
      · rintro ⟨p, hp, ps, ⟨hps, hnames⟩, heq⟩
        cases heq
        exact ⟨.cons hp hps, hseen, hnames⟩
      · rintro ⟨hall, -, hnames⟩
        cases hall with
        | cons hp hps => exact ⟨_, hp, _, ⟨hps, hnames⟩, rfl⟩

/-- Columns are accepted if their names differ without their case, and none was seen before. -/
theorem checkColumns_eq_ok {entity : String} {columns : List Column} {seen : List String} :
    checkColumns entity seen columns = .ok () ↔
      (columns.map fun c => Text.fold c.name).Nodup ∧ ∀ c ∈ columns, Text.fold c.name ∉ seen := by
  induction columns generalizing seen with
  | nil => simp [checkColumns]
  | cons c rest ih =>
    rw [checkColumns, nodup_and_unseen_cons, ← List.contains_iff_mem]
    by_cases hseen : seen.contains (Text.fold c.name) = true
    · rw [if_pos hseen]
      exact ⟨nofun, fun h => absurd hseen h.1⟩
    · rw [if_neg hseen, ih]
      exact ⟨fun h => ⟨hseen, h⟩, And.right⟩

/-! ### The position of the identifier -/

variable {fields : List PersistentField}

theorem idIndex_eq_found (h : ∀ f ∈ fields, f.role ≠ .identifier) (found n : Nat) :
    idIndex found n fields = found := by
  induction fields generalizing n with
  | nil => rfl
  | cons f fields ih =>
    obtain ⟨hf, hfields⟩ := List.forall_mem_cons.1 h
    rw [idIndex, if_neg hf, ih hfields]

/-- If there is an identifier among the fields, then the position that is found is that of one. -/
theorem exists_idIndex (h : ∃ f ∈ fields, f.role = .identifier) (found n : Nat) :
    ∃ k f, fields[k]? = some f ∧ f.role = .identifier ∧ idIndex found n fields = n + k := by
  induction fields generalizing found n with
  | nil =>
    obtain ⟨_, hf, -⟩ := h
    cases hf
  | cons f fields ih =>
    by_cases hlater : ∃ g ∈ fields, g.role = .identifier
    · obtain ⟨k, g, hg, hrole, hfound⟩ := ih hlater (if f.role = .identifier then n else found) (n + 1)
      exact ⟨k + 1, g, hg, hrole, by rw [idIndex, hfound]; omega⟩
    · have hnone : ∀ g ∈ fields, g.role ≠ .identifier := fun g hg hrole => hlater ⟨g, hg, hrole⟩
      have hf : f.role = .identifier := by
        obtain ⟨g, hg, hrole⟩ := h
        rcases List.mem_cons.1 hg with rfl | hg
        · exact hrole
        · exact absurd hrole (hnone g hg)
      exact ⟨0, f, rfl, hf, by rw [idIndex, if_pos hf, idIndex_eq_found hnone]; rfl⟩

/-- A mapping whose identifier is no association has a field with the role of the identifier. -/
theorem exists_identifier {ms : Mappings} {d : Mapping} {parts : List Part}
    (h : List.Forall₂ (Resolved ms) d.fields parts) (hd : ∃ f, d.idFields = [f] ∧ f.isSimple = true) :
    ∃ g ∈ parts.filterMap Part.field?, g.role = .identifier := by
  obtain ⟨f, hf, hsimple⟩ := hd
  have hmem : f ∈ d.idFields := hf ▸ List.mem_singleton_self f
  obtain ⟨hmem, hid⟩ := List.mem_filter.1 hmem
  obtain ⟨p, hp, hresolved⟩ := exists_mem_zip_of_forall₂ h hmem
  obtain ⟨g, hg, hrole⟩ := hresolved.exists_identifier hsimple hid
  exact ⟨g, List.mem_filterMap.2 ⟨p, (List.of_mem_zip hp).2, hg⟩, hrole⟩

end Mappings

/-! ## The whole -/

namespace Metadata

theorem identifier_mem (m : Metadata) : m.identifier ∈ m.fields := List.getElem_mem m.idIndex.isLt

theorem nonIdFields_sublist (m : Metadata) : m.nonIdFields.Sublist m.fields :=
  List.eraseIdx_sublist m.fields m.idIndex

end Metadata

/-- The parts that a type was resolved into, and what they have in common. -/
structure Mappings.Parts (ms : Mappings) (entity : String) (m : Metadata) (parts : List Mappings.Part) :
    Prop where
  owner : m.entity = entity
  marked : (ms entity).marked = true
  table : m.table.name = (ms entity).tableName entity
  tableName : isIdentifier m.table.name = true
  results : List.Forall₂ (fun f p => Mappings.resolveField ms entity f = .ok p)
    (ms entity).fields parts
  fields : m.fields = parts.filterMap Mappings.Part.field?
  tableColumns : m.table.columns = parts.filterMap Mappings.Part.column?
  foreignKeys : m.table.foreignKeys = parts.filterMap Mappings.Part.foreignKey?
  associations : m.associations = parts.filterMap Mappings.Part.association?
  idIndex : m.idIndex.val = Mappings.idIndex 0 0 m.fields
  resolved : List.Forall₂ (Mappings.Resolved ms) (ms entity).fields parts
  names : (parts.map Mappings.Part.name).Nodup
  /-- The names of the columns differ without their case. -/
  columns : ((parts.filterMap Mappings.Part.column?).map fun c => Text.fold c.name).Nodup
  /-- One field is marked as the identifier, and it is no association. -/
  declared : ∃ f, (ms entity).idFields = [f] ∧ f.isSimple = true

namespace Mappings

variable {ms : Mappings} {entity : String} {m : Metadata}

theorem checkName_eq_ok {what name : String} :
    checkName entity what name = .ok () ↔ isIdentifier name = true := by
  rw [checkName]
  split <;> simp_all [refuse]

theorem checkIdentifier_eq_ok {d : Mapping} :
    checkIdentifier entity d = .ok () ↔ ∃ f, d.idFields = [f] ∧ f.isSimple = true := by
  rw [checkIdentifier]
  split
  · next hnil => simp [hnil, refuse]
  · next f hf => split <;> simp_all [refuse]
  · next hnone hone => simpa [refuse] using fun f hf => absurd hf (hone f)

theorem resolve_parts (h : ms.resolve entity = .ok m) : ∃ parts, Parts ms entity m parts := by
  rw [resolve] at h
  split at h
  · obtain ⟨_, h, -⟩ := bind_eq_ok.1 h
    cases h
  next hmarked =>
  obtain ⟨_, htable, h⟩ := bind_eq_ok.1 h
  obtain ⟨_, hid, h⟩ := bind_eq_ok.1 h
  obtain ⟨parts, hparts, h⟩ := bind_eq_ok.1 h
  obtain ⟨_, hcolumns, h⟩ := bind_eq_ok.1 h
  obtain ⟨hresults, hnames, -⟩ := resolveFields_eq_ok.1 hparts
  have hresolved := hresults.imp fun _ _ => resolveField_resolved
  dsimp only at h
  split at h
  · cases h
    exact ⟨parts,
      { owner := rfl
        marked := by simpa using hmarked
        table := rfl
        tableName := checkName_eq_ok.1 htable
        results := hresults
        fields := rfl
        tableColumns := rfl
        foreignKeys := rfl
        associations := rfl
        idIndex := rfl
        resolved := hresolved
        names := by
          rwa [← map_eq_map_of_forall₂ (hresolved.imp fun _ _ h => h.name.symm)]
        columns := (checkColumns_eq_ok.1 hcolumns).1
        declared := checkIdentifier_eq_ok.1 hid }⟩
  · cases h

end Mappings

/-- What the metadata of a type are like. -/
structure Metadata.Sound (m : Metadata) : Prop where
  identifier_role : m.identifier.role = .identifier
  eq_identifier : ∀ f ∈ m.fields, f.role = .identifier → f = m.identifier
  names_nodup : (m.fields.map PersistentField.name).Nodup
  columns_nodup : m.columnNames.Nodup

namespace Mappings

variable {ms : Mappings} {entity : String} {m : Metadata}

theorem names_sublist (parts : List Part) :
    ((parts.filterMap Part.field?).map PersistentField.name).Sublist (parts.map Part.name) := by
  induction parts with
  | nil => exact .slnil
  | cons p parts ih =>
    cases p with
    | persistent f c k => exact ih.cons_cons f.name
    | inverse a => exact ih.cons a.field

/-- The fields with a column are called as their columns say. -/
theorem columns_of_resolved {fields : List Field} {parts : List Part}
    (h : List.Forall₂ (Resolved ms) fields parts) :
    (parts.filterMap Part.field?).map PersistentField.column =
      (parts.filterMap Part.column?).map Column.name := by
  induction h with
  | nil => rfl
  | @cons f p fields parts hp _ ih =>
    cases hp with
    | simple _ _ hc | reference _ _ hc =>
      simp only [List.filterMap_cons, Part.field?, Part.column?, List.map_cons, ih, hc]
    | inverse =>
      simp only [List.filterMap_cons, Part.field?, Part.column?, ih]

/-- Every field with a column comes from a declared one. -/
theorem Parts.origin {parts : List Part} (h : Parts ms entity m parts) {g : PersistentField}
    (hg : g ∈ m.fields) :
    ∃ f ∈ (ms entity).fields, ∃ c k, Resolved ms f (.persistent g c k) := by
  rw [h.fields, List.mem_filterMap] at hg
  obtain ⟨p, hp, hfield⟩ := hg
  obtain ⟨n, hn, rfl⟩ := List.getElem_of_mem hp
  have hlength := h.resolved.length_eq
  have hresolved := List.forall₂_iff_get.1 h.resolved |>.2 n (hlength ▸ hn) hn
  refine ⟨_, List.get_mem _ ⟨n, hlength ▸ hn⟩, ?_⟩
  simp only [List.get_eq_getElem] at hresolved ⊢
  cases hpart : parts[n] with
  | persistent f c k =>
    rw [hpart] at hresolved hfield
    cases hfield
    exact ⟨c, k, hresolved⟩
  | inverse a =>
    rw [hpart] at hfield
    cases hfield

/-- The field of the identifier comes from the declared field that is marked as such. -/
theorem Parts.origin_identifier {parts : List Part} (h : Parts ms entity m parts)
    {g : PersistentField} (hg : g ∈ m.fields) (hrole : g.role = .identifier) :
    ∃ f, (ms entity).idFields = [f] ∧ g.name = f.name ∧ g.sqlType = f.sqlType := by
  obtain ⟨d, hd, -⟩ := h.declared
  obtain ⟨f, hf, c, k, hresolved⟩ := h.origin hg
  refine ⟨d, hd, ?_⟩
  cases hresolved with
  | simple _ hn _ hr ht =>
    by_cases hid : f.isId = true
    · have hmem : f ∈ (ms entity).idFields := List.mem_filter.2 ⟨hf, hid⟩
      rw [hd, List.mem_singleton] at hmem
      exact ⟨hmem ▸ hn, hmem ▸ ht⟩
    · rw [hrole, if_neg hid] at hr
      cases hr
  | reference _ _ _ hr =>
    rw [hrole] at hr
    cases hr

/-- No two columns of a type have names that are the same but for the case of letters. -/
theorem nodup_fold_of_resolve (h : ms.resolve entity = .ok m) : (m.columnNames.map Text.fold).Nodup := by
  obtain ⟨parts, hparts⟩ := resolve_parts h
  rw [Metadata.columnNames, hparts.fields, columns_of_resolved hparts.resolved, List.map_map]
  exact hparts.columns

/-- The field at the position of the identifier is one with its role. -/
theorem Parts.identifier_role {parts : List Part} (h : Parts ms entity m parts) :
    m.identifier.role = .identifier := by
  obtain ⟨k, f, hf, hrole, hfound⟩ := exists_idIndex (h.fields ▸ exists_identifier h.resolved h.declared) 0 0
  have hk : m.idIndex.val = k := by rw [h.idIndex, hfound, Nat.zero_add]
  have hget : m.fields[m.idIndex.val]? = some m.identifier := List.getElem?_eq_getElem m.idIndex.isLt
  rw [hk, hf, Option.some.injEq] at hget
  rw [← hget, hrole]

/-- Metadata that were resolved are sound. -/
theorem sound_of_resolve (h : ms.resolve entity = .ok m) : m.Sound := by
  obtain ⟨parts, hparts⟩ := resolve_parts h
  have hrole := hparts.identifier_role
  have hnames : (m.fields.map PersistentField.name).Nodup := by
    rw [hparts.fields]
    exact (names_sublist parts).nodup hparts.names
  refine ⟨hrole, fun f hf hfrole => ?_, hnames, (nodup_fold_of_resolve h).of_map _⟩
  obtain ⟨d, hd, hname, -⟩ := hparts.origin_identifier hf hfrole
  obtain ⟨d', hd', hname', -⟩ := hparts.origin_identifier m.identifier_mem hrole
  rw [hd, List.singleton_inj] at hd'
  exact List.inj_on_of_nodup_map hnames hf m.identifier_mem (by rw [hname, hname', hd'])

theorem entity_of_resolve (h : ms.resolve entity = .ok m) : m.entity = entity := by
  obtain ⟨_, hparts⟩ := resolve_parts h
  exact hparts.owner

/-- A reference has the type of the field that its target has marked as the identifier. -/
theorem resolve_referenceType (h : ms.resolve entity = .ok m) {f : PersistentField} (hf : f ∈ m.fields)
    {target : String} (hrole : f.role = .reference target) :
    ∃ d, (ms target).idFields.head? = some d ∧ f.sqlType = d.sqlType := by
  obtain ⟨_, hparts⟩ := resolve_parts h
  obtain ⟨_, -, c, k, hresolved⟩ := hparts.origin hf
  cases hresolved with
  | simple _ _ _ hr =>
    rw [hrole] at hr
    split at hr <;> cases hr
  | reference _ _ _ hr hi ht =>
    rw [hrole, FieldRole.reference.injEq] at hr
    subst hr
    exact ⟨_, hi, ht⟩

/-- A reference has the type of the identifier that it refers to. -/
theorem resolve_reference (h : ms.resolve entity = .ok m) {f : PersistentField} (hf : f ∈ m.fields)
    {target : String} (hrole : f.role = .reference target) {m' : Metadata}
    (h' : ms.resolve target = .ok m') : f.sqlType = m'.identifier.sqlType := by
  obtain ⟨_, hparts'⟩ := resolve_parts h'
  have hsound := sound_of_resolve h'
  obtain ⟨d, hd, -, htype⟩ :=
    hparts'.origin_identifier m'.identifier_mem hsound.identifier_role
  obtain ⟨d', hd', hft⟩ := resolve_referenceType h hf hrole
  rw [hd, List.head?_cons, Option.some.injEq] at hd'
  rw [hft, htype, hd']

end Mappings

theorem PersistentField.isReference_iff {f : PersistentField} :
    f.isReference = true ↔ ∃ target, f.role = .reference target := by
  cases hrole : f.role <;> simp [isReference, hrole, FieldRole.target?]

namespace Metadata

namespace Sound

variable {m : Metadata}

/-- The identifier stands among the fields, and all that stand before and after it are others. -/
theorem exists_append (hs : m.Sound) : ∃ before after, m.fields = before ++ m.identifier :: after ∧
    m.nonIdFields = before ++ after ∧ ∀ g ∈ before ++ after, g.role ≠ .identifier := by
  have hfields : m.fields = m.fields.take m.idIndex ++ m.identifier :: m.fields.drop (m.idIndex + 1) := by
    conv_lhs => rw [← List.take_append_drop m.idIndex m.fields, List.drop_eq_getElem_cons m.idIndex.isLt]
    rfl
  refine ⟨_, _, hfields, List.eraseIdx_eq_take_drop_succ m.fields m.idIndex, fun g hg hrole => ?_⟩
  have hnodup : m.fields.Nodup := hs.names_nodup.of_map _
  rw [hfields, List.nodup_middle, List.nodup_cons] at hnodup
  have hmem : g ∈ m.fields := by
    rw [hfields, List.mem_append, List.mem_cons]
    exact (List.mem_append.1 hg).imp_right .inr
  exact hnodup.1 (hs.eq_identifier g hmem hrole ▸ hg)

/-- The fields other than the one at the position of the identifier are those with another role. -/
theorem nonIdFields_eq (hs : m.Sound) : m.nonIdFields = m.fields.filter fun f => f.role != .identifier := by
  obtain ⟨before, after, hfields, hothers, hroles⟩ := hs.exists_append
  rw [hothers, hfields, List.filter_append, List.filter_cons_of_neg (by simp [hs.identifier_role]),
    ← List.filter_append]
  exact (List.filter_eq_self.2 fun g hg => bne_iff_ne.2 (hroles g hg)).symm

theorem mem_nonIdFields (hs : m.Sound) {f : PersistentField} :
    f ∈ m.nonIdFields ↔ f ∈ m.fields ∧ f.role ≠ .identifier := by
  rw [hs.nonIdFields_eq, List.mem_filter, bne_iff_ne]

/-- The fields other than the identifier are the simple ones and the references. -/
theorem written_perm (hs : m.Sound) :
    (m.simpleFields ++ m.references.map Prod.fst).Perm m.nonIdFields := by
  rw [hs.nonIdFields_eq]
  unfold simpleFields references
  induction m.fields with
  | nil => exact .refl _
  | cons f fields ih =>
    cases hrole : f.role with
    | identifier => simpa [hrole, FieldRole.target?] using ih
    | simple => simpa [hrole, FieldRole.target?] using ih
    | reference target =>
      simpa [hrole, FieldRole.target?] using List.perm_middle.trans (ih.cons f)

end Sound

theorem mem_simpleFields {m : Metadata} {f : PersistentField} :
    f ∈ m.simpleFields ↔ f ∈ m.fields ∧ f.role = .simple := by
  simp [simpleFields]

theorem mem_references {m : Metadata} {f : PersistentField} {target : String} :
    (f, target) ∈ m.references ↔ f ∈ m.fields ∧ f.role = .reference target := by
  simp only [references, List.mem_filterMap, Option.map_eq_some_iff, Prod.mk.injEq]
  constructor
  · rintro ⟨g, hg, t, ht, rfl, rfl⟩
    refine ⟨hg, ?_⟩
    cases hrole : g.role <;> simp [hrole, FieldRole.target?] at ht
    rw [ht]
  · rintro ⟨hf, hrole⟩
    exact ⟨f, hf, target, by rw [hrole]; rfl, rfl, rfl⟩

theorem written_subset (m : Metadata) : m.simpleFields ++ m.references.map Prod.fst ⊆ m.fields := by
  intro f hf
  rcases List.mem_append.1 hf with hf | hf
  · exact (mem_simpleFields.1 hf).1
  · obtain ⟨⟨g, target⟩, hg, rfl⟩ := List.mem_map.1 hf
    exact (mem_references.1 hg).1

theorem hasReferences_iff {m : Metadata} : m.hasReferences = true ↔ m.references ≠ [] := by
  rw [hasReferences, List.any_eq_true]
  constructor
  · rintro ⟨f, hf, hreference⟩
    obtain ⟨target, hrole⟩ := PersistentField.isReference_iff.1 hreference
    exact List.ne_nil_of_mem (mem_references.2 ⟨hf, hrole⟩)
  · intro hne
    obtain ⟨⟨f, target⟩, hf⟩ := List.exists_mem_of_ne_nil _ hne
    obtain ⟨hf, hrole⟩ := mem_references.1 hf
    exact ⟨f, hf, PersistentField.isReference_iff.2 ⟨target, hrole⟩⟩

end Metadata

/-- A key is made of the identifier in its declared form. -/
theorem EntityKey.of_eq_ok {ms : Mappings} {entity : String} {id : Value} {k : EntityKey} :
    EntityKey.of ms entity id = .ok k ↔
      ∃ m, ms.resolve entity = .ok m ∧ id.cast m.identifier.sqlType = .ok k.id ∧ k.entity = entity := by
  rw [EntityKey.of, bind_eq_ok]
  refine exists_congr fun m => and_congr_right fun _ => ?_
  rw [bind_eq_ok]
  constructor
  · rintro ⟨v, hv, h⟩
    cases h
    exact ⟨hv, rfl⟩
  · rintro ⟨hv, rfl⟩
    exact ⟨k.id, hv, rfl⟩

end EntitySession
