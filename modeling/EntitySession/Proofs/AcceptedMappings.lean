import EntitySession.Proofs.Templates

/-!
# Which mappings are accepted, and what becomes of them

The metadata of a type consist of five lists and a position in one of them, and all that is built on them
relies on the lists to be in step.  They are, because they are made of the same parts: each declared field has
become one part, and whatever a list has of it comes from there (`Mappings.Stems`).  What can be said about the
lists is therefore said about one part, and `List.rel_filterMap` carries it over.

`Metadata.WellFormed` collects it.  In the other direction, a mapping is resolved if each of its fields is and
no names collide (`Mappings.exists_resolve_of_proper`); a field with a column is, if its column has a proper
name and the target that it refers to has an identifier.  `Mappings.resolve_wellFormed` has both.
-/

set_option autoImplicit false

namespace EntitySession

/-! ## Declared fields -/

namespace Field

/-- Whether a field has a column: it is simple, or the owning side of a to-one association. -/
def hasColumn (f : Field) : Bool := f.association.all Association.isOwningToOne

/-- The column of a field that has one. -/
def resolvedColumn (f : Field) : String := if f.isSimple then f.columnName else f.joinColumnName

end Field

/-- How a field with a column comes from a declared field. -/
inductive PersistentField.Stems (ms : Mappings) (f : Field) (g : PersistentField) : Prop
  /-- A simple field keeps its type, and its column is called like the field unless another name is given. -/
  | simple (ha : f.association = none) (hname : g.name = f.name)
      (hcolumn : g.column = f.column.name.getD f.name)
      (hrole : g.role = if f.isId then .identifier else .simple) (htype : g.sqlType = f.sqlType)
  /-- An owning to-one field has the type of the identifier of its target, and its column is called like the
  field, with an ending, unless another name is given. -/
  | reference {a : Association} {i : Field} (ha : f.association = some a)
      (howning : a.isOwningToOne = true) (hname : g.name = f.name)
      (hcolumn : g.column = f.column.name.getD (f.name ++ "_id")) (hrole : g.role = .reference a.target)
      (hmarked : (ms a.target).marked = true) (hi : (ms a.target).idFields.head? = some i)
      (htype : g.sqlType = i.sqlType)

theorem PersistentField.Stems.column_eq {ms : Mappings} {f : Field} {g : PersistentField}
    (h : g.Stems ms f) : g.column = f.resolvedColumn := by
  rw [Field.resolvedColumn, Field.isSimple]
  cases h with
  | simple ha _ hcolumn => rw [ha, hcolumn]; rfl
  | reference ha _ _ hcolumn => rw [ha, hcolumn]; rfl

/-- A column is that of a field; it is the primary key if the field is the identifier. -/
structure Column.Describes (g : PersistentField) (c : Column) : Prop where
  logicalName : c.logicalName = g.name
  name : c.name = g.column
  sqlType : c.sqlType = g.sqlType
  primaryKey : c.primaryKey = true ↔ g.role = .identifier

/-- A foreign key is that of a reference. -/
structure ForeignKey.Describes (ms : Mappings) (entity : String) (reference : PersistentField × String)
    (k : ForeignKey) : Prop where
  logicalName : k.logicalName = reference.1.name
  table : k.table = (ms entity).tableName entity
  column : k.column = reference.1.column
  referencedTable : k.referencedTable = (ms reference.2).tableName reference.2

namespace Mappings

variable {ms : Mappings} {entity : String} {m : Metadata} {f : Field} {p : Part}

/-! ## Parts -/

/-- The reference that a part is, with its target. -/
def Part.reference? (p : Part) : Option (PersistentField × String) :=
  p.field?.bind fun g => g.role.target?.map fun target => (g, target)

/-- What a declared field has brought to each of the lists that metadata consist of. -/
structure Stems (ms : Mappings) (entity : String) (f : Field) (p : Part) : Prop where
  field : Option.Rel (PersistentField.Stems ms) (Option.guard Field.hasColumn f) p.field?
  column : Option.Rel Column.Describes p.field? p.column?
  foreignKey : Option.Rel (ForeignKey.Describes ms entity) p.reference? p.foreignKey?
  association : Option.Rel (fun f b => ∃ a, Inverted ms entity f a b)
    (Option.guard (fun f => !f.hasColumn) f) p.association?

theorem resolveSimple_stems (ha : f.association = none) (h : resolveSimple entity f = .ok p) :
    Stems ms entity f p := by
  obtain ⟨_, -, h⟩ := bind_eq_ok.1 h
  cases h
  have hcolumn : f.hasColumn = true := by rw [Field.hasColumn, ha]; rfl
  constructor
  case field =>
    rw [Option.guard_pos hcolumn]
    exact .some (.simple ha rfl rfl rfl rfl)
  case column => exact .some ⟨rfl, rfl, rfl, by cases f.isId <;> simp⟩
  case foreignKey =>
    have htarget : (if f.isId then FieldRole.identifier else .simple).target? = none := by
      cases f.isId <;> rfl
    rw [Part.reference?, Part.field?, Option.bind_some, htarget]
    exact .none
  case association =>
    rw [Option.guard_eq_none_iff.2 (by rw [hcolumn]; rfl)]
    exact .none

theorem resolveReference_stems {a : Association} (ha : f.association = some a)
    (howning : a.isOwningToOne = true) (h : resolveReference ms entity f a = .ok p) :
    Stems ms entity f p := by
  obtain ⟨_, -, h⟩ := bind_eq_ok.1 h
  obtain ⟨t, ht, h⟩ := bind_eq_ok.1 h
  obtain ⟨hmarked, i, hi, rfl⟩ := targetIdType_eq_ok.1 ht
  cases h
  have hcolumn : f.hasColumn = true := by rw [Field.hasColumn, ha]; exact howning
  constructor
  case field =>
    rw [Option.guard_pos hcolumn]
    exact .some (.reference ha howning rfl rfl rfl hmarked hi rfl)
  case column => exact .some ⟨rfl, rfl, rfl, by simp⟩
  case foreignKey => exact .some ⟨rfl, rfl, rfl, rfl⟩
  case association =>
    rw [Option.guard_eq_none_iff.2 (by rw [hcolumn]; rfl)]
    exact .none

theorem resolveInverse_stems {a : Association} (h : resolveField ms entity f = .ok p)
    (ha : f.association = some a) (howning : a.isOwningToOne ≠ true) : Stems ms entity f p := by
  obtain ⟨b, rfl, hb⟩ := resolveField_inverted h ha howning
  have hcolumn : f.hasColumn = false := by
    rw [Field.hasColumn, ha]
    exact Bool.eq_false_iff.2 howning
  constructor
  case field =>
    rw [Option.guard_eq_none_iff.2 hcolumn]
    exact .none
  case column => exact .none
  case foreignKey => exact .none
  case association =>
    rw [Option.guard_pos (by rw [hcolumn]; rfl)]
    exact .some ⟨a, hb⟩

theorem resolveField_stems (h : resolveField ms entity f = .ok p) : Stems ms entity f p := by
  cases ha : f.association with
  | none =>
    rw [resolveField, ha] at h
    exact resolveSimple_stems ha h
  | some a =>
    by_cases howning : a.isOwningToOne = true
    · simp only [resolveField, ha, if_pos howning] at h
      exact resolveReference_stems ha howning h
    · exact resolveInverse_stems h ha howning

end Mappings

/-! ## What is accepted is well-formed -/

/-- What a mapping has that is resolved, but for its associations without a column. -/
structure Mappings.Proper (ms : Mappings) (entity : String) : Prop where
  marked : (ms entity).marked = true
  table : IsName ((ms entity).tableName entity)
  /-- There is one identifier, and it is simple. -/
  identifier : ∃ f, (ms entity).idFields = [f] ∧ f.isSimple = true
  names : ((ms entity).fields.map Field.name).Nodup
  columns : ∀ f ∈ (ms entity).fields, f.hasColumn = true → IsName f.resolvedColumn
  /-- No two columns are the same but for the case of letters. -/
  distinct : ((((ms entity).fields.filter Field.hasColumn).map Field.resolvedColumn).map Text.fold).Nodup
  /-- The targets of references are entities and have an identifier. -/
  targets : ∀ f ∈ (ms entity).fields, ∀ a, f.association = some a → a.isOwningToOne = true →
    (ms a.target).marked = true ∧ (ms a.target).idFields ≠ []

/-- How metadata come from a mapping. -/
structure Metadata.WellFormed (ms : Mappings) (entity : String) (m : Metadata) : Prop where
  owner : m.entity = entity
  table : m.table.name = (ms entity).tableName entity
  /-- One field is the identifier, and the others are those that are listed as such, in order. -/
  identifier : ∃ before after, m.fields = before ++ m.identifier :: after ∧
    m.identifier.role = .identifier ∧ m.nonIdFields = before ++ after ∧
      ∀ g ∈ before ++ after, g.role ≠ .identifier
  /-- The fields are the declared ones that have a column. -/
  fields : List.Forall₂ (PersistentField.Stems ms) ((ms entity).fields.filter Field.hasColumn) m.fields
  columns : List.Forall₂ Column.Describes m.fields m.table.columns
  foreignKeys : List.Forall₂ (ForeignKey.Describes ms entity) m.references m.table.foreignKeys
  named : ∀ column ∈ m.columnNames, IsName column
  distinct : (m.columnNames.map Text.fold).Nodup
  /-- The associations are the declared fields that have no column. -/
  associations : List.Forall₂ (fun f b => ∃ a, Mappings.Inverted ms entity f a b)
    ((ms entity).fields.filter fun f => !f.hasColumn) m.associations

namespace Mappings

variable {ms : Mappings} {entity : String} {m : Metadata}

theorem Parts.stems {parts : List Part} (h : Parts ms entity m parts) :
    List.Forall₂ (Stems ms entity) (ms entity).fields parts :=
  h.results.imp fun _ _ => resolveField_stems

theorem wellFormed_of_resolve (h : ms.resolve entity = .ok m) : m.WellFormed ms entity := by
  obtain ⟨parts, hparts⟩ := resolve_parts h
  have hself : List.Forall₂ (fun p q => p = q ∧ ∃ f, Stems ms entity f p) parts parts := by
    refine List.forall₂_same.2 fun p hp => ⟨rfl, ?_⟩
    obtain ⟨f, -, hf⟩ := hparts.exists_field hp
    exact ⟨f, resolveField_stems hf⟩
  constructor
  case owner => exact hparts.owner
  case table => exact hparts.table
  case identifier =>
    have hs := sound_of_resolve h
    obtain ⟨before, after, hfields, hothers⟩ := hs.exists_append
    exact ⟨before, after, hfields, hs.identifier_role, hothers⟩
  case fields =>
    rw [hparts.fields, ← List.filterMap_eq_filter]
    exact List.rel_filterMap (R := Stems ms entity) (fun _ _ hstems => hstems.field) hparts.stems
  case columns =>
    rw [hparts.fields, hparts.tableColumns]
    exact List.rel_filterMap (fun _ _ ⟨heq, _, hstems⟩ => heq ▸ hstems.column) hself
  case foreignKeys =>
    rw [Metadata.references, hparts.fields, List.filterMap_filterMap, hparts.foreignKeys]
    exact List.rel_filterMap (fun _ _ ⟨heq, _, hstems⟩ => heq ▸ hstems.foreignKey) hself
  case named => exact fun column hcolumn => isName_iff.2 ((named_of_resolve h).columns column hcolumn)
  case distinct => exact nodup_fold_of_resolve h
  case associations =>
    rw [hparts.associations, ← List.filterMap_eq_filter]
    exact List.rel_filterMap (R := Stems ms entity) (fun _ _ hstems => hstems.association) hparts.stems

theorem proper_of_resolve (h : ms.resolve entity = .ok m) : ms.Proper entity := by
  obtain ⟨parts, hparts⟩ := resolve_parts h
  have hm := wellFormed_of_resolve h
  have hfield : ∀ f ∈ (ms entity).fields, f.hasColumn = true → ∃ g ∈ m.fields, g.Stems ms f := by
    intro f hf hcolumn
    obtain ⟨g, hg, hstems⟩ :=
      exists_mem_zip_of_forall₂ hm.fields (List.mem_filter.2 ⟨hf, hcolumn⟩)
    exact ⟨g, (List.of_mem_zip hg).2, hstems⟩
  constructor
  case marked => exact hparts.marked
  case table => exact isName_iff.2 (hparts.table ▸ hparts.tableName)
  case identifier => exact hparts.declared
  case names =>
    rw [map_eq_map_of_forall₂ (hparts.resolved.imp fun _ _ hf => hf.name.symm)]
    exact hparts.names
  case columns =>
    intro f hf hcolumn
    obtain ⟨g, hg, hstems⟩ := hfield f hf hcolumn
    exact hstems.column_eq ▸ hm.named g.column (List.mem_map_of_mem hg)
  case distinct =>
    rw [map_eq_map_of_forall₂ (hm.fields.imp fun _ _ hg => hg.column_eq.symm)]
    exact hm.distinct
  case targets =>
    intro f hf a ha howning
    obtain ⟨g, -, hstems⟩ := hfield f hf (by rw [Field.hasColumn, ha]; exact howning)
    cases hstems with
    | simple hnone =>
      rw [ha] at hnone
      cases hnone
    | reference ha' _ _ _ _ hmarked hi =>
      obtain rfl : a = _ := Option.some.inj (ha.symm.trans ha')
      exact ⟨hmarked, fun hnil => by rw [hnil] at hi; cases hi⟩

/-! ## What is proper is accepted -/

variable {f : Field}

/-- A field with a column is resolved if its column has a proper name and its target an identifier. -/
theorem exists_resolveField (hcolumn : f.hasColumn = true) (hname : IsName f.resolvedColumn)
    (htargets : ∀ a, f.association = some a → a.isOwningToOne = true →
      (ms a.target).marked = true ∧ (ms a.target).idFields ≠ []) :
    ∃ p, resolveField ms entity f = .ok p := by
  rw [isName_iff, Field.resolvedColumn, Field.isSimple] at hname
  cases ha : f.association with
  | none =>
    rw [ha] at hname
    simp only [resolveField, ha]
    exact ⟨_, bind_eq_ok.2 ⟨(), checkName_eq_ok.2 hname, rfl⟩⟩
  | some a =>
    rw [ha] at hname
    have howning : a.isOwningToOne = true := by rwa [Field.hasColumn, ha] at hcolumn
    obtain ⟨hmarked, hids⟩ := htargets a ha howning
    have hid : targetIdType ms entity f.name a.target = .ok _ :=
      targetIdType_eq_ok.2 ⟨hmarked, _, List.head?_eq_some_head hids, rfl⟩
    simp only [resolveField, ha, if_pos howning]
    exact ⟨_, bind_eq_ok.2 ⟨(), checkName_eq_ok.2 hname, bind_eq_ok.2 ⟨_, hid, rfl⟩⟩⟩

/-- The column of a part is that of its field. -/
theorem Stems.column_eq {p : Part} (h : Stems ms entity f p) :
    Option.Rel (fun f c => f.resolvedColumn = c.name) (Option.guard Field.hasColumn f) p.column? := by
  have hfield := h.field
  have hcolumn := h.column
  generalize Option.guard Field.hasColumn f = declared at hfield ⊢
  generalize p.field? = field at hfield hcolumn
  generalize p.column? = column at hcolumn ⊢
  cases hfield with
  | none =>
    cases hcolumn
    exact .none
  | some hg =>
    cases hcolumn with
    | some hc => exact .some (hg.column_eq.symm.trans hc.name.symm)

/-- A mapping that is proper is resolved if each of its fields is. -/
theorem exists_resolve_of_proper (h : ms.Proper entity)
    (hall : ∀ f ∈ (ms entity).fields, ∃ p, resolveField ms entity f = .ok p) :
    ∃ m, ms.resolve entity = .ok m := by
  obtain ⟨parts, hparts⟩ := exists_forall₂_of_forall hall
  have hstems := hparts.imp fun _ _ => resolveField_stems
  have hname : checkName entity "table" ((ms entity).tableName entity) = .ok () :=
    checkName_eq_ok.2 (isName_iff.1 h.table)
  have hid : checkIdentifier entity (ms entity) = .ok () := checkIdentifier_eq_ok.2 h.identifier
  have hresolved : resolveFields ms entity [] (ms entity).fields = .ok parts :=
    resolveFields_eq_ok.2 ⟨hparts, h.names, fun _ _ => List.not_mem_nil⟩
  have hcolumns : checkColumns entity [] (parts.filterMap Part.column?) = .ok () := by
    refine checkColumns_eq_ok.2 ⟨?_, fun _ _ => List.not_mem_nil⟩
    have hcolumns : ((ms entity).fields.filter Field.hasColumn).map Field.resolvedColumn =
        (parts.filterMap Part.column?).map Column.name := by
      rw [← List.filterMap_eq_filter]
      exact map_eq_map_of_forall₂
        (List.rel_filterMap (R := Stems ms entity) (fun _ _ hstems => hstems.column_eq) hstems)
    have hdistinct := h.distinct
    rwa [hcolumns, List.map_map] at hdistinct
  have hidentifier := exists_identifier (hparts.imp fun _ _ => resolveField_resolved) h.identifier
  obtain ⟨k, f, hf, -, hfound⟩ := exists_idIndex hidentifier 0 0
  have hindex : idIndex 0 0 (parts.filterMap Part.field?) < (parts.filterMap Part.field?).length := by
    rw [hfound, Nat.zero_add]
    exact (List.getElem?_eq_some_iff.1 hf).1
  simp only [resolve, h.marked, Bool.not_true, Bool.false_eq_true, if_false]
  exact ⟨_, bind_eq_ok.2 ⟨(), hname, bind_eq_ok.2 ⟨(), hid, bind_eq_ok.2 ⟨parts, hresolved,
    bind_eq_ok.2 ⟨(), hcolumns, dif_pos hindex⟩⟩⟩⟩⟩

/-- **Resolution yields well-formed metadata, and accepts what is proper.**  Metadata that a mapping was
resolved to come from it list by list, and the mapping is proper; and a proper mapping whose fields all have
columns is resolved. -/
theorem resolve_wellFormed (ms : Mappings) (entity : String) :
    (∀ m, ms.resolve entity = .ok m → ms.Proper entity ∧ m.WellFormed ms entity) ∧
      ((∀ f ∈ (ms entity).fields, f.hasColumn = true) → ms.Proper entity →
        ∃ m, ms.resolve entity = .ok m) := by
  refine ⟨fun m h => ⟨proper_of_resolve h, wellFormed_of_resolve h⟩, fun hall hproper => ?_⟩
  refine exists_resolve_of_proper hproper fun f hf => ?_
  exact exists_resolveField (hall f hf) (hproper.columns f hf (hall f hf)) (hproper.targets f hf)

end Mappings

/-! ### Parcels -/

namespace Parcels

/-- People are known by a code. -/
def people : Mapping := ⟨true, none, [{ Field.simple "code" .text with isId := true }]⟩

/-- A parcel has a number, whose column is called otherwise, a sender and a weight. -/
def parcels : Mapping :=
  { marked := true, table := some "parcels"
    fields :=
      [{ Field.simple "number" .bigInt with
          isId := true, column := { ColumnOptions.standard with name := some "parcel_no" } },
       { Field.simple "sender" .bigInt with
          association := some ⟨.manyToOne, "Person", none, .list, none⟩ },
       Field.simple "weight" .double] }

def mappings : Mappings := fun entity =>
  if entity = "Parcel" then parcels else if entity = "Person" then people else .unmarked

theorem proper_parcels : mappings.Proper "Parcel" where
  marked := by decide
  table := isName_iff.2 (by decide)
  identifier := ⟨_, rfl, rfl⟩
  names := by decide
  columns := by
    simp only [isName_iff]
    decide
  distinct := by decide +kernel
  targets f hf a ha _ := by
    have hperson : a.target = "Person" := by
      simp only [mappings, if_pos, parcels, List.mem_cons, List.not_mem_nil, or_false] at hf
      rcases hf with rfl | rfl | rfl <;> cases ha
      rfl
    rw [hperson]
    decide

/-- Parcels are accepted, and their columns are called as was said. -/
theorem resolve_wellFormed_parcels : ∃ m, mappings.resolve "Parcel" = .ok m ∧
    m.WellFormed mappings "Parcel" ∧ m.columnNames = ["parcel_no", "sender_id", "weight"] ∧
    m.identifier.column = "parcel_no" ∧
    m.table.foreignKeys.map ForeignKey.referencedTable = ["Person"] := by
  obtain ⟨m, hm⟩ := (Mappings.resolve_wellFormed mappings "Parcel").2 (by decide) proper_parcels
  have hlists : (mappings.resolve "Parcel").toOption.map (fun m => (m.columnNames, m.identifier.column,
      m.table.foreignKeys.map ForeignKey.referencedTable)) =
        some (["parcel_no", "sender_id", "weight"], "parcel_no", ["Person"]) := by decide +kernel
  rw [hm] at hlists
  obtain ⟨hnames, hlists⟩ := Prod.mk.inj (Option.some.inj hlists)
  obtain ⟨hid, hkeys⟩ := Prod.mk.inj hlists
  exact ⟨m, hm, ((Mappings.resolve_wellFormed mappings "Parcel").1 m hm).2, hnames, hid, hkeys⟩

end Parcels

end EntitySession
