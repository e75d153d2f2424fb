import EntitySession.SqlType

/-!
# Mappings

A `Mapping` is what an entity type declares about itself: whether it is an entity at all, the name of
its table, and its fields in order.  A field is simple, or it is an association with another type.
Nothing is checked here; `EntitySession.Metadata.Resolve` turns a mapping into tables, columns and
keys, or says what is wrong with it.

Types are known by name, and `Mappings` gives the mapping of every type.  Two types are told apart here
by these names alone, so the names stand for the identities of types: two types that share a simple name
but live in different places are outside of what is modelled.
-/

set_option autoImplicit false

namespace EntitySession

/-- How many instances stand on either side of an association. -/
inductive AssociationKind where
  | oneToOne
  | manyToOne
  | oneToMany
  | manyToMany
  deriving DecidableEq

namespace AssociationKind

/-- Whether the association leads to at most one target. -/
def isToOne : AssociationKind → Bool
  | oneToOne | manyToOne => true
  | oneToMany | manyToMany => false

/-- Whether the association leads to a collection. -/
def isCollection (k : AssociationKind) : Bool := !k.isToOne

end AssociationKind

/-- The container that a collection is held in. -/
inductive CollectionKind where
  /-- Ordered, repetitions allowed. -/
  | list
  /-- Each entity at most once. -/
  | set
  /-- Some other container, which cannot be loaded. -/
  | other (name : String)
  deriving DecidableEq

/-- A table that links two entity types. -/
structure JoinTable where
  table : String
  /-- The column that refers to the side that is asked. -/
  joinColumn : String
  /-- The column that refers to the other side. -/
  inverseJoinColumn : String
  deriving DecidableEq

namespace JoinTable

/-- The same links seen from the other side. -/
def swap (j : JoinTable) : JoinTable :=
  { j with joinColumn := j.inverseJoinColumn, inverseJoinColumn := j.joinColumn }

end JoinTable

/-- What makes a field an association. -/
structure Association where
  kind : AssociationKind
  /-- The type on the other side. -/
  target : String
  /-- The field of the target that owns the association, on its inverse side. -/
  mappedBy : Option String
  collection : CollectionKind
  joinTable : Option JoinTable
  deriving DecidableEq

/-- Whether this side holds the join column. -/
def Association.isOwningToOne (a : Association) : Bool := a.kind.isToOne && a.mappedBy.isNone

/-- The options of a column. -/
structure ColumnOptions where
  /-- The name of the column, where it is not that of the field. -/
  name : Option String
  nullable : Bool
  unique : Bool
  length : Option Nat
  precision : Option Nat
  scale : Option Nat
  deriving DecidableEq

/-- A column that accepts NULL and has no other options. -/
def ColumnOptions.standard : ColumnOptions := ⟨none, true, false, none, none, none⟩

/-- A declared field. -/
structure Field where
  name : String
  /-- The declared type; of a to-one association the identifier of the target decides instead. -/
  sqlType : SqlType
  /-- Whether the field is marked as the identifier. -/
  isId : Bool
  column : ColumnOptions
  association : Option Association
  deriving DecidableEq

namespace Field

/-- A field that is no association and not the identifier. -/
def simple (name : String) (sqlType : SqlType) : Field :=
  ⟨name, sqlType, false, .standard, none⟩

/-- Whether the field is no association. -/
def isSimple (f : Field) : Bool := f.association.isNone

/-- The column of a simple field: the given name, or else that of the field. -/
def columnName (f : Field) : String := f.column.name.getD f.name

/-- The column of an owning to-one field: the given name, or else that of the field with an
ending. -/
def joinColumnName (f : Field) : String := f.column.name.getD (f.name ++ "_id")

end Field

/-- What an entity type declares. -/
structure Mapping where
  /-- Whether the type carries the entity marker. -/
  marked : Bool
  /-- The name of the table, where it is not that of the type. -/
  table : Option String
  fields : List Field
  deriving DecidableEq

namespace Mapping

/-- The mapping of a type that is no entity. -/
def unmarked : Mapping := ⟨false, none, []⟩

/-- The fields marked as identifiers. -/
def idFields (m : Mapping) : List Field := m.fields.filter Field.isId

/-- The first field with a name. -/
def field? (m : Mapping) (name : String) : Option Field := m.fields.find? fun f => f.name == name

/-- The table of a type. -/
def tableName (m : Mapping) (entity : String) : String := m.table.getD entity

end Mapping

/-- The mapping of every type, by its name. -/
abbrev Mappings : Type := String → Mapping

end EntitySession
