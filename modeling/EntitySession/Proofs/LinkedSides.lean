import EntitySession.Proofs.Counterparts
import EntitySession.Proofs.Provenance

/-!
# The two sides of a join table

A many-to-many association is declared on both of its types.  One of them owns it and names the join
table with its two columns; the other names the field that does, and takes the join table from there
with the columns swapped (`Mappings.resolveSource_mappedBy`).

What a join table holds is read here off a database that is known by the rows of its tables
(`LinkStore`).  Each of these rows links two identifiers, whichever side one asks from
(`LinkStore.linked_swap`), and to load the targets of an owner gives one instance for each row of the
target that is linked to it (`LinkStore.describes`).  So an association and the field that owns it describe
the same links, seen from their two ends (`Schema.mirrors`), provided that the owning field leads back.

That is not a matter of course.  Nobody compares the target of the owning field with the type that is
resolved, as is done where a join column owns an association.  `Tags.not_mirrored` has a type that
resolves although the field that it names leads elsewhere: its identifiers are then compared with those of
a third type.
-/

set_option autoImplicit false

namespace EntitySession

variable {δ : Type} {S : Schema}

/-! ## What is taken from the owning side -/

/-- A field owns a many-to-many association, through a join table. -/
structure Field.OwnsLinks (g : Field) (c : Association) (links : JoinTable) : Prop where
  association : g.association = some c
  kind : c.kind = .manyToMany
  mappedBy : c.mappedBy = none
  joinTable : c.joinTable = some links

theorem not_owningToOne {a : Association} (hkind : a.kind = .manyToMany) : a.isOwningToOne ≠ true := by
  simp [Association.isOwningToOne, hkind, AssociationKind.isToOne]

namespace Mappings

variable {ms : Mappings} {entity : String}

theorem owningJoinTable?_eq_some {g : Field} {links : JoinTable}
    (h : owningJoinTable? g = some links) : ∃ c, g.OwnsLinks c links := by
  obtain ⟨c, hc, h⟩ := Option.bind_eq_some_iff.1 h
  split at h
  · next howns => exact ⟨c, hc, howns.1, Option.isNone_iff_eq_none.1 howns.2, h⟩
  · cases h

/-- A mapped many-to-many association has the join table of a field of its target, with the columns
swapped. -/
theorem resolveSource_mappedBy {f : Field} {a : Association} {source : AssociationSource}
    {inverse : String} (h : resolveSource ms entity f a = .ok source) (hkind : a.kind = .manyToMany)
    (hmapped : a.mappedBy = some inverse) :
    ∃ g c links, (ms a.target).field? inverse = some g ∧ g.OwnsLinks c links ∧
      source = .joinTable links.swap := by
  simp only [resolveSource.eq_def, hkind, hmapped] at h
  obtain ⟨g, hg, h⟩ := bind_eq_ok.1 h
  split at h
  · next links hlinks =>
    cases h
    obtain ⟨c, hc⟩ := owningJoinTable?_eq_some hlinks
    exact ⟨g, c, links, owningSide_eq_ok hg, hc, rfl⟩
  · cases h

/-- The owning side has its own join table, as it is declared. -/
theorem resolveSource_owning {g : Field} {c : Association} {links : JoinTable}
    (h : g.OwnsLinks c links) : resolveSource ms entity g c = .ok (.joinTable links) := by
  simp only [resolveSource.eq_def, h.kind, h.mappedBy, h.joinTable]

end Mappings

/-! ## Tables and links -/

/-- What is selected through a join table: the row of a target, once for each link from the owner. -/
def joinedRows (equal : Value → Value → Bool) (targets linkRows : List (String → Value)) (m : Metadata)
    (links : JoinTable) (ownerId : Value) : List Row :=
  targets.flatMap fun r =>
    (linkRows.filter fun j => equal (r m.identifier.column) (j links.inverseJoinColumn) &&
      equal (j links.joinColumn) ownerId).map fun _ => Row.of m.columnNames (m.columnNames.map r)

/-- A database of which one knows what its tables hold, in each row a value for every column, and that
selects through the join tables of a schema what it should, in some order, or fails. -/
structure LinkStore (S : Schema) (δ : Type) [Database δ] where
  rows : ConnectionId → δ → String → List (String → Value)
  /-- Whether the database takes two values to be equal.  NULL need not be equal to itself. -/
  equal : Value → Value → Bool
  equal_comm : ∀ u v, equal u v = equal v u
  select : ∀ {owner : String} {m₀ m : Metadata} {b : InverseAssociation} {links : JoinTable}
    {ownerId : Value} {answer : List Row} (c : ConnectionId) (d : δ),
    S.metadata owner = .ok m₀ → b ∈ m₀.associations → b.source = .joinTable links →
    S.metadata b.target = .ok m →
    (Database.query c (Statement.selectLinked m.columnNames m.table.name links.table m.identifier.column
      links.inverseJoinColumn links.joinColumn).render [ownerId] d).1 = .ok answer →
    answer.Perm (joinedRows equal (rows c d m.table.name) (rows c d links.table) m links ownerId)

namespace LinkStore

variable [Database δ] (store : LinkStore S δ)

/-- A join table links an owner to a target. -/
def Linked (links : JoinTable) (c : ConnectionId) (d : δ) (owner target : Value) : Prop :=
  ∃ j ∈ store.rows c d links.table, store.equal (j links.joinColumn) owner = true ∧
    store.equal (j links.inverseJoinColumn) target = true

/-- The links of a table are the same from both sides. -/
theorem linked_swap (links : JoinTable) (c : ConnectionId) (d : δ) (owner target : Value) :
    store.Linked links.swap c d owner target ↔ store.Linked links c d target owner :=
  exists_congr fun _ => and_congr_right fun _ => And.comm

/-- The loads of an association describe a relation between owners and targets: the instances of an owner
ask for its own targets, and what is loaded for an owner is one instance for each of some rows, among
which are those of the related targets and no others. -/
structure Describes (owner : String) (b : InverseAssociation) (m : Metadata)
    (related : ConnectionId → δ → Value → Value → Prop) : Prop where
  asks : ∀ {ownerId : Value} {loader : Loader} {fault : Option InstantiationFault} {cell : CellId}
    {x : Binding}, Binding.inverse owner b ownerId loader fault cell = .ok x →
      x.request = .byQuery ⟨b.target, b.source, ownerId⟩
  loads : ∀ {g : Gateway} {loader : Loader} {ownerId : Value} {s t : Site δ} {is : List InstanceId},
    (g.findAssociated S loader ⟨b.target, b.source, ownerId⟩).perform s = (.ok is, t) →
      ∃ rows : List Row, List.Forall₂ (fun row i => ∃ h₀ h₁,
          Heap.hydrate S h₀ loader b.target row = .ok (i, h₁) ∧ h₁.Extends t.heap) rows is ∧
        ∀ row, row ∈ rows ↔ ∃ r ∈ store.rows g.connection s.outside m.table.name,
          row = Row.of m.columnNames (m.columnNames.map r) ∧
            related g.connection s.outside ownerId (r m.identifier.column)

variable {store}

theorem mem_joinedRows {m : Metadata} {links : JoinTable} {c : ConnectionId} {d : δ} {ownerId : Value}
    {row : Row} :
    row ∈ joinedRows store.equal (store.rows c d m.table.name) (store.rows c d links.table) m links
        ownerId ↔
      ∃ r ∈ store.rows c d m.table.name, row = Row.of m.columnNames (m.columnNames.map r) ∧
        store.Linked links c d ownerId (r m.identifier.column) := by
  simp only [joinedRows, List.mem_flatMap, List.mem_map, List.mem_filter, Bool.and_eq_true, Linked]
  refine exists_congr fun r => and_congr_right fun _ => ?_
  simp only [store.equal_comm (r m.identifier.column)]
  constructor
  · rintro ⟨j, ⟨hj, htarget, howner⟩, rfl⟩
    exact ⟨rfl, j, hj, howner, htarget⟩
  · rintro ⟨rfl, j, hj, howner, htarget⟩
    exact ⟨j, ⟨hj, htarget, howner⟩, rfl⟩

/-- An association with a join table describes the links of the table. -/
theorem describes {owner : String} {m₀ m : Metadata} {b : InverseAssociation} {links : JoinTable}
    (hm₀ : S.metadata owner = .ok m₀) (hb : b ∈ m₀.associations) (hsource : b.source = .joinTable links)
    (hm : S.metadata b.target = .ok m) : store.Describes owner b m (store.Linked links) where
  asks h := by
    obtain ⟨_, -, rfl⟩ := Binding.inverse_eq_ok.1 h
    rfl
  loads h := by
    simp only [Gateway.findAssociated, hsource] at h
    obtain ⟨m', u, hu, h⟩ := Act.perform_bind_ok.1 h
    obtain ⟨hm', rfl⟩ := Prod.mk.inj hu
    rw [hm, Except.ok.injEq] at hm'
    subst hm'
    obtain ⟨rows, u, hu, h⟩ := Act.perform_bind_ok.1 h
    obtain ⟨hrows, rfl⟩ := Gateway.perform_send_ok hu
    obtain ⟨-, -, hmade⟩ := Gateway.hydrateAll_ok h
    rw [Mappings.entity_of_resolve hm] at hmade
    refine ⟨rows, hmade, fun row => ?_⟩
    rw [(store.select _ _ hm₀ hb hsource hm hrows).mem_iff]
    exact mem_joinedRows

end LinkStore

/-! ## Agreement -/

/-- A mapped many-to-many association of a type has the join table of a field of its target, with the
columns swapped; and if that field leads back to the type, both describe the same links. -/
structure Schema.Mirrors (S : Schema) (m : Metadata) (f : Field) (a : Association) (inverse : String)
    (c : Association) (links : JoinTable) (b : InverseAssociation) : Prop where
  owning : ∃ g, (S a.target).mapping.field? inverse = some g ∧ g.OwnsLinks c links
  association : m.association? f.name = some b
  kind : b.kind = .manyToMany
  target : b.target = a.target
  source : b.source = .joinTable links.swap
  /-- The metadata of the target have the other side, and over any database that answers as it should the
  two are loaded by one relation between their identifiers. -/
  sameLinks : c.target = m.entity → ∀ m', S.metadata a.target = .ok m' →
    ∃ b', m'.association? inverse = some b' ∧ b'.kind = .manyToMany ∧ b'.target = m.entity ∧
      b'.source = .joinTable links ∧
        ∀ (δ : Type) [Database δ] (store : LinkStore S δ),
          store.Describes m.entity b m' (store.Linked links.swap) ∧
          store.Describes m'.entity b' m fun c d owner target =>
            store.Linked links.swap c d target owner

/-- **The two sides of a join table.**  A many-to-many association of a type that resolves, mapped by a
field of its target, has the join table of that field, which is a many-to-many association that is not
mapped itself, with the two columns swapped.  If the field leads back to the type, then to load the
association of the one and that of the other describes the same links between the two. -/
theorem Schema.mirrors {entity inverse : String} {m : Metadata} (hm : S.metadata entity = .ok m)
    {f : Field} (hf : f ∈ (S entity).mapping.fields) {a : Association} (ha : f.association = some a)
    (hkind : a.kind = .manyToMany) (hmapped : a.mappedBy = some inverse) :
    ∃ c links b, S.Mirrors m f a inverse c links b := by
  have hentity := Mappings.entity_of_resolve hm
  obtain ⟨b, hb, hinverted⟩ := Mappings.resolve_inverted hm hf ha (not_owningToOne hkind)
  obtain ⟨g, c, links, hg, hc, hsource⟩ :=
    Mappings.resolveSource_mappedBy hinverted.source hkind hmapped
  refine ⟨c, links, b, ⟨g, hg, hc⟩, hb, hinverted.kind.trans hkind, hinverted.target, hsource, ?_⟩
  intro hback m' hm'
  have hentity' := Mappings.entity_of_resolve hm'
  have hname : g.name = inverse := by simpa using List.find?_some hg
  obtain ⟨b', hb', hinverted'⟩ := Mappings.resolve_inverted hm' (List.mem_of_find?_eq_some hg)
    hc.association (not_owningToOne hc.kind)
  rw [hname] at hb'
  have htarget' : b'.target = m.entity := hinverted'.target.trans hback
  have hsource' : b'.source = .joinTable links := by
    have hresolved := hinverted'.source
    rw [Mappings.resolveSource_owning hc, Except.ok.injEq] at hresolved
    exact hresolved.symm
  refine ⟨b', hb', hinverted'.kind.trans hc.kind, htarget', hsource', fun δ _ store => ⟨?_, ?_⟩⟩
  · exact store.describes (hentity ▸ hm) (List.mem_of_find?_eq_some hb) hsource (hinverted.target ▸ hm')
  · have howners := store.describes (hentity' ▸ hm') (List.mem_of_find?_eq_some hb') hsource'
      (show S.metadata b'.target = .ok m by rw [htarget', hentity, hm])
    refine ⟨howners.asks, fun h => ?_⟩
    obtain ⟨rows, hmade, hrows⟩ := howners.loads h
    exact ⟨rows, hmade, by simpa only [store.linked_swap] using hrows⟩

/-! ### Students and their courses -/

namespace Courses

/-- A type with a number and a many-to-many association. -/
def linkedType (entity table field target : String) (mappedBy : Option String)
    (links : Option JoinTable) : Declaration :=
  { entity, marked := true, table := some table, constructionFault := none, bindable := true
    fields :=
      [⟨{ Field.simple "id" .bigInt with isId := true }, .anyValue⟩,
        ⟨{ Field.simple field .text with
            association := some ⟨.manyToMany, target, mappedBy, .list, links⟩ },
          .container (.collection target (.ofItems false [])) true⟩] }

/-- Students own the links to their courses. -/
def students : Declaration :=
  linkedType "Student" "students" "courses" "Course" none
    (some ⟨"enrolments", "student_id", "course_id"⟩)

def courses : Declaration :=
  linkedType "Course" "courses" "students" "Student" (some "courses") none

def schema : Schema := Declaration.schema [students, courses]

/-- The associations through a join table: the metadata of the target, and the links. -/
def selections : List (Metadata × JoinTable) :=
  ["Student", "Course"].flatMap fun owner =>
    match schema.metadata owner with
    | .ok m₀ => m₀.associations.filterMap fun b =>
      match b.source, schema.metadata b.target with
      | .joinTable links, .ok m => some (m, links)
      | _, _ => none
    | .error _ => []

/-- The text of a selection. -/
def text (x : Metadata × JoinTable) : String :=
  (Statement.selectLinked x.1.columnNames x.1.table.name x.2.table x.1.identifier.column
    x.2.inverseJoinColumn x.2.joinColumn).render

/-- A database of students 1 and 2 and courses 10 and 20. -/
structure School where
  /-- Who takes which course. -/
  enrolments : List (Int64 × Int64)

namespace School

def rows (d : School) (table : String) : List (String → Value) :=
  if table = "students" then [fun _ => .bigInt 1, fun _ => .bigInt 2]
  else if table = "courses" then [fun _ => .bigInt 10, fun _ => .bigInt 20]
  else d.enrolments.map fun e column => .bigInt (if column = "student_id" then e.1 else e.2)

/-- NULL is not equal to itself. -/
def equal (u v : Value) : Bool := u == v && !u.isNull && !v.isNull

theorem equal_comm (u v : Value) : equal u v = equal v u := by
  have hsame : (u == v) = (v == u) := BEq.comm
  rw [equal, equal, hsame, Bool.and_right_comm]

instance : Database School where
  query _ sql values d :=
    (match selections.find? fun x => text x == sql with
      | some x => .ok (joinedRows equal (d.rows x.1.table.name) (d.rows x.2.table) x.1 x.2
          (values.headD .null))
      | none => .ok [], d)
  execute _ _ _ d := (.ok 0, d)
  insert _ _ _ d := (.ok ⟨0, []⟩, d)
  setAutoCommit _ _ d := (.ok (), d)
  commit _ d := (.ok (), d)
  rollback _ d := (.ok (), d)
  close _ d := (.ok (), d)

theorem mem_selections {owner : String} {m₀ m : Metadata} {b : InverseAssociation} {links : JoinTable}
    (hm₀ : schema.metadata owner = .ok m₀) (hb : b ∈ m₀.associations)
    (hsource : b.source = .joinTable links) (hm : schema.metadata b.target = .ok m) :
    (m, links) ∈ selections := by
  have howner : owner ∈ ["Student", "Course"] := by
    obtain ⟨d, hd, rfl, -⟩ := Declaration.exists_of_metadata hm₀
    rcases List.mem_pair.1 hd with rfl | rfl
    · exact List.mem_cons_self
    · exact List.mem_cons_of_mem _ List.mem_cons_self
  unfold selections
  rw [List.mem_flatMap]
  refine ⟨owner, howner, ?_⟩
  simp only [hm₀, List.mem_filterMap]
  exact ⟨b, hb, by rw [hsource, hm]⟩

theorem texts_nodup : (selections.map text).Nodup := by decide +kernel

theorem query_selection {m : Metadata} {links : JoinTable} (hx : (m, links) ∈ selections)
    (c : ConnectionId) (d : School) (v : Value) :
    Database.query c (Statement.selectLinked m.columnNames m.table.name links.table m.identifier.column
      links.inverseJoinColumn links.joinColumn).render [v] d =
        (.ok (joinedRows equal (d.rows m.table.name) (d.rows links.table) m links v), d) := by
  have hfind := find?_of_nodup texts_nodup hx
  simp only [text] at hfind
  simp only [Database.query, text, hfind, List.headD_cons]

/-- The school answers what the associations ask. -/
def store : LinkStore schema School where
  rows _ := rows
  equal := equal
  equal_comm := equal_comm
  select := by
    intro owner m₀ m b links ownerId answer c d hm₀ hb hsource hm hquery
    rw [query_selection (mem_selections hm₀ hb hsource hm)] at hquery
    cases hquery
    exact .refl _

end School

/-- Where the association of a declared field leads. -/
def targetOf (S : Schema) (entity field : String) : Option String :=
  (((S entity).mapping.field? field).bind Field.association).map Association.target

theorem targetOf_of_owning {S : Schema} {entity field : String} {g : Field} {c : Association}
    {links : JoinTable} (hg : (S entity).mapping.field? field = some g) (hc : g.OwnsLinks c links) :
    targetOf S entity field = some c.target := by
  rw [targetOf, hg, Option.bind_some, hc.association, Option.map_some]

/-- The mapped association of the courses, as it is declared. -/
def ofCourses : Association := ⟨.manyToMany, "Student", some "courses", .list, none⟩

def field : Field := { Field.simple "students" .text with association := some ofCourses }

/-- A school where student 1 takes both courses, and student 2 the first. -/
def school : School := ⟨[(1, 10), (1, 20), (2, 10)]⟩

/-- The numbers in the rows that an association is answered for an owner. -/
def asked (entity association : String) (owner : Int64) : List (List Value) :=
  match selections.find? fun x => x.1.entity == entity && x.2.table == association with
  | some x => match (Database.query 0 (text x) [.bigInt owner] school).1 with
    | .ok rows => rows.map Row.cells
    | .error _ => []
  | none => []

/-- Courses mirror their students: whoever is in the list of a course has the course in his. -/
theorem mirrors_courses :
    (∃ m m' c links b, schema.metadata "Course" = .ok m ∧ schema.metadata "Student" = .ok m' ∧
      schema.Mirrors m field ofCourses "courses" c links b ∧ c.target = m.entity ∧
      ∃ b', School.store.Describes "Course" b m' (School.store.Linked links.swap) ∧
        School.store.Describes "Student" b' m fun c d owner target =>
          School.store.Linked links.swap c d target owner) ∧
      asked "Student" "enrolments" 10 = [[.bigInt 1], [.bigInt 2]] ∧
      asked "Course" "enrolments" 1 = [[.bigInt 10], [.bigInt 20]] ∧
      asked "Course" "enrolments" 2 = [[.bigInt 10]] := by
  obtain ⟨m, hm⟩ := exists_of_isOk (show (schema.metadata "Course").isOk = true by decide +kernel)
  obtain ⟨m', hm'⟩ := exists_of_isOk (show (schema.metadata "Student").isOk = true by decide +kernel)
  have hf : field ∈ (schema "Course").mapping.fields := by decide +kernel
  obtain ⟨c, links, b, hmirrors⟩ := Schema.mirrors hm hf rfl rfl rfl
  have hback : c.target = m.entity := by
    obtain ⟨g, hg, hc⟩ := hmirrors.owning
    have htarget : targetOf schema ofCourses.target "courses" = some "Course" := by decide +kernel
    rw [targetOf_of_owning hg hc, Option.some.injEq] at htarget
    rw [htarget, Mappings.entity_of_resolve hm]
  refine ⟨⟨m, m', c, links, b, hm, hm', hmirrors, hback, ?_⟩, ?_, ?_, ?_⟩
  · obtain ⟨b', -, -, -, -, hlinks⟩ := hmirrors.sameLinks hback m' hm'
    have hsame := hlinks School School.store
    rw [Mappings.entity_of_resolve hm, Mappings.entity_of_resolve hm'] at hsame
    exact ⟨b', hsame⟩
  all_goals decide +kernel

end Courses

/-! ### Posts and tags that belong to others -/

namespace Tags

/-- Tags are linked to users, but posts take the association for theirs. -/
def schema : Schema :=
  Declaration.schema
    [Courses.linkedType "Post" "posts" "tags" "Tag" (some "users") none,
      Courses.linkedType "Tag" "tags" "users" "User" none (some ⟨"tag_users", "tag_id", "user_id"⟩),
      Courses.linkedType "User" "users" "tags" "Tag" (some "users") none]

def ofPosts : Association := ⟨.manyToMany, "Tag", some "users", .list, none⟩

def field : Field := { Field.simple "tags" .text with association := some ofPosts }

/-- Posts resolve, although the field that they name leads to users: the tags of a post are those that the
join table links to the user with its number. -/
theorem not_mirrored :
    (schema.metadata "Post").toOption.map (fun m => m.associations.map InverseAssociation.source) =
        some [.joinTable ⟨"tag_users", "user_id", "tag_id"⟩] ∧
      ¬∀ (S : Schema) (entity inverse : String) (m : Metadata) (f : Field) (a : Association),
        S.metadata entity = .ok m → f ∈ (S entity).mapping.fields → f.association = some a →
          a.kind = .manyToMany → a.mappedBy = some inverse →
            ∃ g c links, (S a.target).mapping.field? inverse = some g ∧ g.OwnsLinks c links ∧
              c.target = entity := by
  refine ⟨by decide +kernel, fun hall => ?_⟩
  obtain ⟨m, hm⟩ := exists_of_isOk (show (schema.metadata "Post").isOk = true by decide +kernel)
  have hf : field ∈ (schema "Post").mapping.fields := by decide +kernel
  obtain ⟨g, c, links, hg, hc, hback⟩ := hall schema "Post" "users" m field ofPosts hm hf rfl rfl rfl
  have htarget : Courses.targetOf schema ofPosts.target "users" = some "User" := by decide +kernel
  rw [Courses.targetOf_of_owning hg hc, hback] at htarget
  simp at htarget

end Tags

end EntitySession
