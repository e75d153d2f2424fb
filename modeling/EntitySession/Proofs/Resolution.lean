import EntitySession.Proofs.Metadata

/-!
# Where the parts of the metadata come from

Each declared field becomes one part of the metadata, and each part comes from one declared field.
What can be said of a part is therefore read off the function that has made it:

* an owning to-one field becomes a field with a column and a foreign key, and the table finds both under
  its name (`Mappings.resolve_joinsTo`);
* every other association becomes one without a column; unless a join table links it, its source is the
  join column of the field of the target that owns it (`Mappings.Inverted.owning`);
* the names of the table, of its columns and of join tables were looked at (`Metadata.Named`).  The join
  column of a target was not, but it is a column of the target, whose own names were
  (`Mappings.foreignKey_mem_columnNames`).
-/

set_option autoImplicit false

namespace EntitySession

/-! ## Lists of distinct names -/

/-- Among elements with distinct names, the one that is found under a name is the one that has it. -/
theorem find?_of_nodup {α β : Type} [DecidableEq β] {name : α → β} {as : List α}
    (h : (as.map name).Nodup) {a : α} (ha : a ∈ as) : as.find? (fun b => name b == name a) = some a := by
  cases hfind : as.find? fun b => name b == name a with
  | none =>
    rw [List.find?_eq_none] at hfind
    exact absurd BEq.rfl (hfind a ha)
  | some b =>
    have hname : name b = name a := by simpa using List.find?_some hfind
    rw [List.inj_on_of_nodup_map h (List.mem_of_find?_eq_some hfind) ha hname]

/-- What is selected of a list, each element under the name that it had, has its names in the order of
the list. -/
theorem names_filterMap_sublist {α β γ : Type} {select : α → Option β} {name : α → γ} {name' : β → γ}
    {as : List α} (h : ∀ a ∈ as, ∀ b, select a = some b → name' b = name a) :
    ((as.filterMap select).map name').Sublist (as.map name) := by
  induction as with
  | nil => exact .slnil
  | cons a as ih =>
    obtain ⟨ha, has⟩ := List.forall_mem_cons.1 h
    cases hselect : select a with
    | none =>
      rw [List.filterMap_cons_none hselect]
      exact (ih has).cons _
    | some b =>
      rw [List.filterMap_cons_some hselect, List.map_cons, List.map_cons, ha b hselect]
      exact (ih has).cons_cons _

namespace Mappings

variable {ms : Mappings} {entity : String} {m : Metadata} {f : Field} {p : Part}

/-! ## What has become of a declared field -/

theorem checkSource_eq_ok {links : JoinTable} (h : checkSource entity (.joinTable links) = .ok ()) :
    isIdentifier links.table = true ∧ isIdentifier links.joinColumn = true ∧
      isIdentifier links.inverseJoinColumn = true := by
  obtain ⟨_, htable, h⟩ := bind_eq_ok.1 h
  obtain ⟨_, hjoin, h⟩ := bind_eq_ok.1 h
  exact ⟨checkName_eq_ok.1 htable, checkName_eq_ok.1 hjoin, checkName_eq_ok.1 h⟩

/-- What a part has is called as the part is, and the names that it brings along were looked at. -/
structure Part.Consistent (p : Part) : Prop where
  column : ∀ c, p.column? = some c → c.logicalName = p.name
  foreignKey : ∀ k, p.foreignKey? = some k → k.logicalName = p.name
  association : ∀ b, p.association? = some b → b.field = p.name
  identifier : ∀ g, p.field? = some g → isIdentifier g.column = true
  links : ∀ b, p.association? = some b → ∀ links, b.source = .joinTable links →
    isIdentifier links.table = true ∧ isIdentifier links.joinColumn = true ∧
      isIdentifier links.inverseJoinColumn = true

theorem resolveSimple_consistent (h : resolveSimple entity f = .ok p) : p.Consistent := by
  obtain ⟨_, hname, h⟩ := bind_eq_ok.1 h
  cases h
  exact
    { column := fun _ hc => by cases hc; rfl
      foreignKey := nofun
      association := nofun
      identifier := fun _ hg => by cases hg; exact checkName_eq_ok.1 hname
      links := nofun }

theorem resolveReference_consistent {a : Association} (h : resolveReference ms entity f a = .ok p) :
    p.Consistent := by
  obtain ⟨_, hname, h⟩ := bind_eq_ok.1 h
  obtain ⟨_, -, h⟩ := bind_eq_ok.1 h
  cases h
  exact
    { column := fun _ hc => by cases hc; rfl
      foreignKey := fun _ hk => by cases hk; rfl
      association := nofun
      identifier := fun _ hg => by cases hg; exact checkName_eq_ok.1 hname
      links := nofun }

theorem resolveInverse_consistent {a : Association} (h : resolveInverse ms entity f a = .ok p) :
    p.Consistent := by
  obtain ⟨source, -, h⟩ := bind_eq_ok.1 h
  obtain ⟨_, hcheck, h⟩ := bind_eq_ok.1 h
  cases h
  exact
    { column := nofun
      foreignKey := nofun
      association := fun _ hb => by cases hb; rfl
      identifier := nofun
      links := fun _ hb links hlinks => by
        cases hb
        obtain rfl : source = .joinTable links := hlinks
        exact checkSource_eq_ok hcheck }

theorem resolveField_consistent (h : resolveField ms entity f = .ok p) : p.Consistent := by
  rw [resolveField] at h
  split at h
  · exact resolveSimple_consistent h
  · split at h
    · exact resolveReference_consistent h
    · exact resolveInverse_consistent h

theorem refersTo_iff {owning : Field} :
    refersTo owning entity = true ↔
      ∃ b, owning.association = some b ∧ b.isOwningToOne = true ∧ b.target = entity := by
  cases hassociation : owning.association <;> simp [refersTo, hassociation]

theorem owningSide_eq_ok {target inverse : String} {owning : Field}
    (h : owningSide ms entity f target inverse = .ok owning) :
    (ms target).field? inverse = some owning := by
  rw [owningSide] at h
  split at h
  · next hfield =>
    cases h
    exact hfield
  · cases h

/-- The targets of a many-to-many association are found through a join table. -/
theorem resolveSource_manyToMany {a : Association} {source : AssociationSource}
    (h : resolveSource ms entity f a = .ok source) (hkind : a.kind = .manyToMany) :
    ∃ links, source = .joinTable links := by
  rw [resolveSource.eq_def, hkind] at h
  cases hmapped : a.mappedBy <;> cases hlinks : a.joinTable <;> rw [hmapped, hlinks] at h
  · cases h
  · cases h
    exact ⟨_, rfl⟩
  all_goals
    obtain ⟨_, -, h⟩ := bind_eq_ok.1 h
    split at h
    · cases h
      exact ⟨_, rfl⟩
    · cases h

/-- Those of any other association are found by the join column of the field that owns it, and that field
refers back. -/
theorem resolveSource_mapped {a : Association} {source : AssociationSource}
    (h : resolveSource ms entity f a = .ok source) (hkind : a.kind ≠ .manyToMany) :
    ∃ inverse owning, a.mappedBy = some inverse ∧ (ms a.target).field? inverse = some owning ∧
      refersTo owning entity = true ∧ source = .foreignKey owning.joinColumnName := by
  cases hmapped : a.mappedBy with
  | none => cases hk : a.kind <;> simp_all [resolveSource, refuse]
  | some inverse =>
    have h' : (do
        let owning ← owningSide ms entity f a.target inverse
        if refersTo owning entity then .ok (.foreignKey owning.joinColumnName)
        else refuse entity (.mappedByForeignField f.name a.target inverse entity)) =
          Except.ok source := by
      cases hk : a.kind <;> simp_all [resolveSource]
    obtain ⟨owning, howning, h'⟩ := bind_eq_ok.1 h'
    split at h'
    · next hrefers =>
      cases h'
      exact ⟨inverse, owning, rfl, owningSide_eq_ok howning, hrefers, rfl⟩
    · cases h'

/-- An owning to-one field has become a field with a column, and a foreign key that leads from that column
to the table of the target. -/
theorem resolveReference_eq_ok {a : Association} (h : resolveReference ms entity f a = .ok p) :
    ∃ g c k, p = .persistent g c (some k) ∧ g.name = f.name ∧ g.column = f.joinColumnName ∧
      g.role = .reference a.target ∧ c.name = g.column ∧ c.sqlType = g.sqlType ∧
      k.table = (ms entity).tableName entity ∧ k.column = g.column ∧
      k.referencedTable = (ms a.target).tableName a.target := by
  obtain ⟨_, -, h⟩ := bind_eq_ok.1 h
  obtain ⟨_, -, h⟩ := bind_eq_ok.1 h
  cases h
  exact ⟨_, _, _, rfl, rfl, rfl, rfl, rfl, rfl, rfl, rfl, rfl⟩

/-- What a declared association without a column has become. -/
structure Inverted (ms : Mappings) (entity : String) (f : Field) (a : Association)
    (b : InverseAssociation) : Prop where
  association : f.association = some a
  field : b.field = f.name
  kind : b.kind = a.kind
  target : b.target = a.target
  source : resolveSource ms entity f a = .ok b.source

theorem resolveField_inverted {a : Association} (h : resolveField ms entity f = .ok p)
    (ha : f.association = some a) (howning : a.isOwningToOne ≠ true) :
    ∃ b, p = .inverse b ∧ Inverted ms entity f a b := by
  simp only [resolveField, ha, if_neg howning] at h
  obtain ⟨source, hsource, h⟩ := bind_eq_ok.1 h
  obtain ⟨_, -, h⟩ := bind_eq_ok.1 h
  cases h
  exact ⟨_, rfl, ha, rfl, rfl, rfl, hsource⟩

/-! ## Declared fields and parts -/

/-- Each declared field has a part. -/
theorem Parts.exists_part {parts : List Part} (h : Parts ms entity m parts)
    (hf : f ∈ (ms entity).fields) : ∃ p ∈ parts, resolveField ms entity f = .ok p := by
  obtain ⟨p, hp, hresolve⟩ := exists_mem_zip_of_forall₂ h.results hf
  exact ⟨p, (List.of_mem_zip hp).2, hresolve⟩

/-- Each part has a declared field. -/
theorem Parts.exists_field {parts : List Part} (h : Parts ms entity m parts) (hp : p ∈ parts) :
    ∃ f ∈ (ms entity).fields, resolveField ms entity f = .ok p := by
  obtain ⟨f, hf, hresolve⟩ := exists_mem_zip_of_forall₂ h.results.flip hp
  exact ⟨f, (List.of_mem_zip hf).2, hresolve⟩

theorem Parts.consistent {parts : List Part} (h : Parts ms entity m parts) (hp : p ∈ parts) :
    p.Consistent := by
  obtain ⟨_, -, hresolve⟩ := h.exists_field hp
  exact resolveField_consistent hresolve

/-- What the parts have of one kind is found under the name of its part. -/
theorem Parts.find?_eq {parts : List Part} (h : Parts ms entity m parts) {β : Type}
    {select : Part → Option β} {name : β → String}
    (hname : ∀ q ∈ parts, ∀ b, select q = some b → name b = q.name) (hp : p ∈ parts) {b : β}
    (hb : select p = some b) :
    (parts.filterMap select).find? (fun c => name c == p.name) = some b := by
  have hnodup := (names_filterMap_sublist hname).nodup h.names
  have hfound := find?_of_nodup hnodup (List.mem_filterMap.2 ⟨p, hp, hb⟩)
  rwa [hname p hp b hb] at hfound

theorem Parts.column?_eq {parts : List Part} (h : Parts ms entity m parts) (hp : p ∈ parts)
    {c : Column} (hc : p.column? = some c) : m.table.column? p.name = some c := by
  rw [Table.column?, h.tableColumns]
  exact h.find?_eq (fun _ hq => (h.consistent hq).column) hp hc

theorem Parts.foreignKey?_eq {parts : List Part} (h : Parts ms entity m parts) (hp : p ∈ parts)
    {k : ForeignKey} (hk : p.foreignKey? = some k) : m.table.foreignKey? p.name = some k := by
  rw [Table.foreignKey?, h.foreignKeys]
  exact h.find?_eq (fun _ hq => (h.consistent hq).foreignKey) hp hk

theorem Parts.association?_eq {parts : List Part} (h : Parts ms entity m parts) (hp : p ∈ parts)
    {b : InverseAssociation} (hb : p.association? = some b) : m.association? p.name = some b := by
  rw [Metadata.association?, h.associations]
  exact h.find?_eq (fun _ hq => (h.consistent hq).association) hp hb

end Mappings

/-! ## The two sides of a reference -/

/-- A field is a reference to a type, with the type of its identifier, and the table says so too. -/
structure Metadata.JoinsTo (m target : Metadata) (g : PersistentField) : Prop where
  field : m.fields.find? (fun f => f.name == g.name) = some g
  role : g.role = .reference target.entity
  sqlType : g.sqlType = target.identifier.sqlType
  column : ∃ c, m.table.column? g.name = some c ∧ c.name = g.column ∧
    c.sqlType = target.identifier.sqlType
  foreignKey : ∃ k, m.table.foreignKey? g.name = some k ∧ k.table = m.table.name ∧
    k.column = g.column ∧ k.referencedTable = target.table.name

namespace Mappings

variable {ms : Mappings} {entity : String} {m : Metadata} {f : Field}

/-- An owning to-one field has become a reference to the type of its target. -/
theorem resolve_joinsTo (h : ms.resolve entity = .ok m) (hf : f ∈ (ms entity).fields)
    {a : Association} (ha : f.association = some a) (howning : a.isOwningToOne = true) {m' : Metadata}
    (h' : ms.resolve a.target = .ok m') :
    ∃ g, g.name = f.name ∧ g.column = f.joinColumnName ∧ m.JoinsTo m' g := by
  obtain ⟨parts, hparts⟩ := resolve_parts h
  obtain ⟨parts', hparts'⟩ := resolve_parts h'
  obtain ⟨p, hp, hresolve⟩ := hparts.exists_part hf
  simp only [resolveField, ha, if_pos howning] at hresolve
  obtain ⟨g, c, k, rfl, hname, hcolumn, hrole, hc, hctype, hktable, hkcolumn, hkreferenced⟩ :=
    resolveReference_eq_ok hresolve
  have hg : g ∈ m.fields := by
    rw [hparts.fields]
    exact List.mem_filterMap.2 ⟨_, hp, rfl⟩
  have htype := resolve_reference h hg hrole h'
  refine ⟨g, hname, hcolumn, ?_⟩
  exact
    { field := find?_of_nodup (sound_of_resolve h).names_nodup hg
      role := by rw [hrole, hparts'.owner]
      sqlType := htype
      column := ⟨c, hparts.column?_eq hp rfl, hc, hctype.trans htype⟩
      foreignKey := ⟨k, hparts.foreignKey?_eq hp rfl, hktable.trans hparts.table.symm, hkcolumn,
        hkreferenced.trans hparts'.table.symm⟩ }

/-- The source of an association that no join table links is the join column of a field of the target,
and that field refers back. -/
theorem Inverted.owning {a : Association} {b : InverseAssociation} (hb : Inverted ms entity f a b)
    (hkind : a.kind ≠ .manyToMany) (h : ms.resolve entity = .ok m) {m' : Metadata}
    (h' : ms.resolve a.target = .ok m') :
    ∃ inverse g, a.mappedBy = some inverse ∧ g.name = inverse ∧ b.source = .foreignKey g.column ∧
      m'.JoinsTo m g := by
  obtain ⟨inverse, owning, hmapped, howning, hrefers, hsource⟩ :=
    resolveSource_mapped hb.source hkind
  obtain ⟨c, hc, hcowning, hctarget⟩ := refersTo_iff.1 hrefers
  obtain ⟨g, hname, hcolumn, hjoins⟩ := resolve_joinsTo h' (List.mem_of_find?_eq_some howning) hc
    hcowning (hctarget ▸ h)
  have hinverse : owning.name = inverse := by simpa using List.find?_some howning
  exact ⟨inverse, g, hmapped, hname.trans hinverse, hcolumn ▸ hsource, hjoins⟩

/-- A declared association without a column is found under its name. -/
theorem resolve_inverted (h : ms.resolve entity = .ok m) (hf : f ∈ (ms entity).fields)
    {a : Association} (ha : f.association = some a) (howning : a.isOwningToOne ≠ true) :
    ∃ b, m.association? f.name = some b ∧ Inverted ms entity f a b := by
  obtain ⟨parts, hparts⟩ := resolve_parts h
  obtain ⟨p, hp, hresolve⟩ := hparts.exists_part hf
  obtain ⟨b, rfl, hb⟩ := resolveField_inverted hresolve ha howning
  exact ⟨b, hb.field ▸ hparts.association?_eq hp rfl, hb⟩

/-- Each association without a column was declared. -/
theorem inverted_of_mem (h : ms.resolve entity = .ok m) {b : InverseAssociation}
    (hb : b ∈ m.associations) : ∃ f a, Inverted ms entity f a b := by
  obtain ⟨parts, hparts⟩ := resolve_parts h
  rw [hparts.associations, List.mem_filterMap] at hb
  obtain ⟨p, hp, hpb⟩ := hb
  obtain ⟨f, -, hresolve⟩ := hparts.exists_field hp
  cases resolveField_resolved hresolve with
  | simple | reference => cases hpb
  | @inverse a _ ha _ =>
    cases hpb
    refine ⟨f, a, ?_⟩
    by_cases howning : a.isOwningToOne = true
    · simp only [resolveField, ha, if_pos howning] at hresolve
      obtain ⟨_, _, _, hp, -⟩ := resolveReference_eq_ok hresolve
      cases hp
    · obtain ⟨_, heq, hb⟩ := resolveField_inverted hresolve ha howning
      cases heq
      exact hb

/-- No association without a column is called like a field with one. -/
theorem name_ne_field (h : ms.resolve entity = .ok m) {g : PersistentField} (hg : g ∈ m.fields)
    {b : InverseAssociation} (hb : b ∈ m.associations) : g.name ≠ b.field := by
  obtain ⟨parts, hparts⟩ := resolve_parts h
  rw [hparts.fields] at hg
  rw [hparts.associations] at hb
  obtain ⟨p, hp, hpg⟩ := List.mem_filterMap.1 hg
  obtain ⟨q, hq, hqb⟩ := List.mem_filterMap.1 hb
  cases p <;> cases hpg
  cases q <;> cases hqb
  intro hname
  have hsame := List.inj_on_of_nodup_map hparts.names hp hq hname
  cases hsame

end Mappings

/-! ## Names that were looked at -/

/-- The names that a type brings into statements are identifiers.  The join column of a target is not
among them, but it is one of the columns of the target. -/
structure Metadata.Named (m : Metadata) : Prop where
  table : isIdentifier m.table.name = true
  columns : ∀ column ∈ m.columnNames, isIdentifier column = true
  links : ∀ b ∈ m.associations, ∀ links, b.source = .joinTable links →
    isIdentifier links.table = true ∧ isIdentifier links.joinColumn = true ∧
      isIdentifier links.inverseJoinColumn = true

namespace Mappings

variable {ms : Mappings} {entity : String} {m : Metadata}

theorem named_of_resolve (h : ms.resolve entity = .ok m) : m.Named := by
  obtain ⟨parts, hparts⟩ := resolve_parts h
  refine ⟨hparts.tableName, fun column hcolumn => ?_, fun b hb => ?_⟩
  · obtain ⟨g, hg, rfl⟩ := List.mem_map.1 hcolumn
    rw [hparts.fields, List.mem_filterMap] at hg
    obtain ⟨p, hp, hg⟩ := hg
    exact (hparts.consistent hp).identifier g hg
  · rw [hparts.associations, List.mem_filterMap] at hb
    obtain ⟨p, hp, hb⟩ := hb
    exact (hparts.consistent hp).links b hb

/-- The column by which the targets of an association are selected is a column of theirs. -/
theorem foreignKey_mem_columnNames (h : ms.resolve entity = .ok m) {b : InverseAssociation}
    (hb : b ∈ m.associations) {column : String} (hsource : b.source = .foreignKey column)
    {m' : Metadata} (h' : ms.resolve b.target = .ok m') : column ∈ m'.columnNames := by
  obtain ⟨f, a, hinverted⟩ := inverted_of_mem h hb
  have hkind : a.kind ≠ .manyToMany := fun hkind => by
    obtain ⟨links, hlinks⟩ := resolveSource_manyToMany hinverted.source hkind
    rw [hsource] at hlinks
    cases hlinks
  obtain ⟨_, g, -, -, hg, hjoins⟩ := hinverted.owning hkind h (hinverted.target ▸ h')
  rw [hsource, AssociationSource.foreignKey.injEq] at hg
  rw [hg]
  exact List.mem_map_of_mem (List.mem_of_find?_eq_some hjoins.field)

end Mappings

end EntitySession
