import EntitySession.Proofs.Accessors
import EntitySession.Proofs.Bindings
import EntitySession.Proofs.Resolution

/-!
# The two sides of an association

A type is resolved for itself.  What it has to know of another type it takes from the mapping of that
type, by a way of its own: the type of a join column from the first field that is marked there as the
identifier, the column of a reverse side from the first field of a name, with the ending that the column
gets if no name is given.  The metadata of the other type are made without any of these.

Where both types resolve, the two agree all the same (`Schema.counterparts`).  A type that resolves has one
field marked as the identifier and no two fields of a name, so "the first" is the one that its metadata
have.  Nothing is assumed of the two types; they may refer to each other in a circle, and they may be one
type.
-/

set_option autoImplicit false

namespace EntitySession

/-! ## What an association without a column asks for -/

namespace Hydration

variable {S : Schema} {loader : Loader} {entity : String} {row : Row}

/-- The identifier that is read along with the fields has the type of the identifier. -/
theorem readFields_ownerId {t : SqlType} {fields : List PersistentField} {position : Nat}
    {ownerId ownerId' : Value} {r r' : Record}
    (htype : ∀ f ∈ fields, f.role = .identifier → f.sqlType = t)
    (howner : ownerId.cast t = .ok ownerId)
    (h : readFields S loader entity row position fields ownerId r = .ok (ownerId', r')) :
    ownerId'.cast t = .ok ownerId' := by
  induction fields generalizing position ownerId r with
  | nil =>
    cases h
    exact howner
  | cons f fields ih =>
    obtain ⟨hf, hfields⟩ := List.forall_mem_cons.1 htype
    obtain ⟨raw, v, ownerId₁, r₁, -, hv, hplaced, h⟩ := readFields_cons.1 h
    refine ih hfields ?_ h
    cases hplaced with
    | identifier hrole => exact hf hrole ▸ Value.cast_cast hv
    | simple | reference => exact howner

end Hydration

/-! ## Agreement -/

/-- The targets of an association are found by the column of one of their references, which refers back;
and instances that are made of a row ask for just those whose column has the identifier of the row, in the
type of the column. -/
structure Schema.Follows (S : Schema) (m m' : Metadata) (b : InverseAssociation)
    (g : PersistentField) : Prop where
  target : b.target = m'.entity
  source : b.source = .foreignKey g.column
  joins : m'.JoinsTo m g
  asks : ∀ {loader : Loader} {row : Row} {fresh r : Record} {ownerId : Value}
    {fault : Option InstantiationFault} {cell : CellId} {x : Binding},
    Hydration.readFields S loader m.entity row 0 m.fields .null fresh = .ok (ownerId, r) →
      Binding.inverse m.entity b ownerId loader fault cell = .ok x →
        x.request = .byQuery ⟨m'.entity, .foreignKey g.column, ownerId⟩ ∧
          ownerId.cast g.sqlType = .ok ownerId

/-- What a type says about its associations with another type is what the other type says. -/
structure Schema.Counterparts (S : Schema) (m m' : Metadata) : Prop where
  /-- Owning to-one fields: the join column and the foreign key fit the identifier and the table of the
  target. -/
  owning : ∀ f ∈ (S m.entity).mapping.fields, ∀ a, f.association = some a → a.target = m'.entity →
    a.isOwningToOne = true →
      ∃ g, g.name = f.name ∧ g.column = f.joinColumnName ∧ m.JoinsTo m' g
  /-- Reverse sides: the field of the target that owns the association is a reference back. -/
  inverse : ∀ f ∈ (S m.entity).mapping.fields, ∀ a, f.association = some a → a.target = m'.entity →
    (a.kind = .oneToMany ∨ a.kind.isToOne = true ∧ a.mappedBy.isSome = true) →
      ∃ b g, m.association? f.name = some b ∧ b.kind = a.kind ∧ a.mappedBy = some g.name ∧
        S.Follows m m' b g

namespace Schema

variable {S : Schema} {entity target : String} {m m' : Metadata}

theorem follows_of_inverted (hm : S.metadata entity = .ok m) {f : Field} {a : Association}
    {b : InverseAssociation} (hb : Mappings.Inverted S.mappings entity f a b)
    (hm' : S.metadata a.target = .ok m') (hkind : a.kind ≠ .manyToMany) :
    ∃ g, a.mappedBy = some g.name ∧ S.Follows m m' b g := by
  obtain ⟨_, g, hmapped, rfl, hsource, hjoins⟩ := hb.owning hkind hm hm'
  have htarget : b.target = m'.entity := hb.target.trans (Mappings.entity_of_resolve hm').symm
  refine ⟨g, hmapped, htarget, hsource, hjoins, fun hread hx => ?_⟩
  obtain ⟨_, -, rfl⟩ := Binding.inverse_eq_ok.1 hx
  refine ⟨by rw [htarget, hsource], ?_⟩
  rw [hjoins.sqlType]
  have hidentifier := (Mappings.sound_of_resolve hm).eq_identifier
  refine Hydration.readFields_ownerId (fun f hf hrole => ?_) (Value.cast_null _) hread
  rw [hidentifier f hf hrole]

/-- **The two sides agree**, for any two types that resolve: an owning to-one field has the type of the
identifier that it refers to and a foreign key to the table of the target, as the target has them; and
a one-to-many or mapped to-one association is followed by the column that the owning field has in the
metadata of the target. -/
theorem counterparts (hm : S.metadata entity = .ok m) (hm' : S.metadata target = .ok m') :
    S.Counterparts m m' := by
  obtain rfl := Mappings.entity_of_resolve hm
  obtain rfl := Mappings.entity_of_resolve hm'
  refine ⟨fun f hf a ha htarget howning => ?owning, fun f hf a ha htarget hmapped => ?inverse⟩
  case owning => exact Mappings.resolve_joinsTo hm hf ha howning (htarget ▸ hm')
  case inverse =>
    have howning : a.isOwningToOne ≠ true := by
      rcases hmapped with hkind | ⟨-, hmapped⟩
      · simp [Association.isOwningToOne, hkind, AssociationKind.isToOne]
      · simp [Association.isOwningToOne, Option.isNone_eq_false_iff.2 hmapped]
    have hkind : a.kind ≠ .manyToMany := fun hkind => by
      simp [hkind, AssociationKind.isToOne] at hmapped
    obtain ⟨b, hb, hinverted⟩ := Mappings.resolve_inverted hm hf ha howning
    obtain ⟨g, hmapped, hfollows⟩ := follows_of_inverted hm hinverted (htarget ▸ hm') hkind
    exact ⟨b, g, hb, hinverted.kind, hmapped, hfollows⟩

end Schema

/-! ### People who keep animals -/

namespace Keepers

/-- An association of a kind with a target, mapped by a field of it or not. -/
def linked (name : String) (column : Option String) (kind : AssociationKind) (target : String)
    (mappedBy : Option String) : Field :=
  { Field.simple name .text with
    column := { ColumnOptions.standard with name := column }
    association := some ⟨kind, target, mappedBy, .list, none⟩ }

/-- People have numbers in a column of another name, guide each other and keep animals. -/
def people : Declaration :=
  { entity := "Person", marked := true, table := some "people", constructionFault := none, bindable := true
    fields :=
      [⟨{ Field.simple "number" .bigInt with
          isId := true, column := { ColumnOptions.standard with name := some "person_no" } }, .anyValue⟩,
        ⟨linked "guide" none .manyToOne "Person" none, .container (.reference "Person" .empty) true⟩,
        ⟨linked "guided" none .oneToMany "Person" (some "guide"),
          .container (.collection "Person" (.ofItems false [])) true⟩,
        ⟨linked "animals" none .oneToMany "Animal" (some "keeper"),
          .container (.collection "Animal" (.ofItems false [])) true⟩,
        ⟨linked "favourite" (some "favourite_tag") .oneToOne "Animal" none,
          .container (.reference "Animal" .empty) true⟩] }

/-- Animals have a tag, a keeper and perhaps somebody whose favourite they are. -/
def animals : Declaration :=
  { entity := "Animal", marked := true, table := none, constructionFault := none, bindable := true
    fields :=
      [⟨{ Field.simple "tag" .text with isId := true }, .anyValue⟩,
        ⟨linked "keeper" (some "kept_by") .manyToOne "Person" none,
          .container (.reference "Person" .empty) true⟩,
        ⟨linked "admirer" none .oneToOne "Person" (some "favourite"),
          .container (.reference "Person" .empty) true⟩] }

def schema : Schema := Declaration.schema [people, animals]

/-- Where an association of a type leads, in the metadata of the type. -/
def sourceOf (entity field : String) : Option AssociationSource :=
  (schema.metadata entity).toOption.bind fun m =>
    (m.association? field).map InverseAssociation.source

/-- Both types resolve, and agree with each other and with themselves. -/
theorem counterparts_keepers :
    (∃ m m', schema.metadata "Person" = .ok m ∧ schema.metadata "Animal" = .ok m' ∧
      schema.Counterparts m m' ∧ schema.Counterparts m' m ∧ schema.Counterparts m m) ∧
      sourceOf "Person" "animals" = some (.foreignKey "kept_by") ∧
      sourceOf "Animal" "admirer" = some (.foreignKey "favourite_tag") ∧
      sourceOf "Person" "guided" = some (.foreignKey "guide_id") := by
  obtain ⟨m, hm⟩ := exists_of_isOk (show (schema.metadata "Person").isOk = true by decide +kernel)
  obtain ⟨m', hm'⟩ := exists_of_isOk (show (schema.metadata "Animal").isOk = true by decide +kernel)
  refine ⟨⟨m, m', hm, hm', Schema.counterparts hm hm', Schema.counterparts hm' hm,
    Schema.counterparts hm hm⟩, ?_, ?_, ?_⟩ <;> decide +kernel

end Keepers

end EntitySession
