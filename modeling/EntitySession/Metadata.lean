import EntitySession.Mapping

/-!
# Metadata

The resolved form of a mapping.  Persistent fields have a column in the table of their type: the
identifier, simple fields, and references, which are the owning sides of to-one associations.  All
other associations, collections and the inverse sides of one-to-one associations, have no column; for
them the metadata says where the rows of the targets are found.

The table descriptor repeats the columns with everything that was declared about them and adds the
foreign keys.  The name of a foreign key's constraint is left out: its letters and digits are drawn at
random, and nothing reads it.

The identifier is known by its position among the fields.  It is a position that there is
(`Metadata.idIndex`); that the field there is the one with the role of the identifier is what
`EntitySession.Proofs.Metadata` shows.
-/

set_option autoImplicit false

namespace EntitySession

/-- What a persistent field is to its entity. -/
inductive FieldRole where
  | identifier
  | simple
  /-- The join column of a reference to the given type. -/
  | reference (target : String)
  deriving DecidableEq

/-- The type that a field refers to. -/
def FieldRole.target? : FieldRole → Option String
  | reference target => some target
  | _ => none

/-- A field with a column. -/
structure PersistentField where
  name : String
  column : String
  /-- The declared type; of a reference that of the identifier it refers to. -/
  sqlType : SqlType
  role : FieldRole
  deriving DecidableEq

namespace PersistentField

/-- Whether the field is a reference. -/
def isReference (f : PersistentField) : Bool := f.role.target?.isSome

end PersistentField

/-- Where the targets of an association without a column are found. -/
inductive AssociationSource where
  /-- Target rows whose column refers to the owner. -/
  | foreignKey (column : String)
  /-- Target rows that a join table links to the owner. -/
  | joinTable (links : JoinTable)
  deriving DecidableEq

/-- An association without a column on the table of its owner. -/
structure InverseAssociation where
  field : String
  kind : AssociationKind
  target : String
  collection : CollectionKind
  source : AssociationSource
  deriving DecidableEq

/-- The description of a column. -/
structure Column where
  /-- The field that the column belongs to. -/
  logicalName : String
  name : String
  sqlType : SqlType
  nullable : Bool
  unique : Bool
  length : Option Nat
  precision : Option Nat
  scale : Option Nat
  primaryKey : Bool
  deriving DecidableEq

/-- The description of the foreign key of a reference. -/
structure ForeignKey where
  /-- The field that the key belongs to. -/
  logicalName : String
  table : String
  column : String
  referencedTable : String
  deriving DecidableEq

/-- The description of a table. -/
structure Table where
  name : String
  columns : List Column
  foreignKeys : List ForeignKey
  deriving DecidableEq

namespace Table

/-- The column of a field. -/
def column? (t : Table) (field : String) : Option Column :=
  t.columns.find? fun c => c.logicalName == field

/-- The foreign key of a field. -/
def foreignKey? (t : Table) (field : String) : Option ForeignKey :=
  t.foreignKeys.find? fun k => k.logicalName == field

end Table

/-- The resolved mapping of an entity type. -/
structure Metadata where
  entity : String
  table : Table
  /-- The fields with a column, in the order of their declaration. -/
  fields : List PersistentField
  /-- Where the identifier stands among the fields. -/
  idIndex : Fin fields.length
  /-- The associations without a column, in the order of their declaration. -/
  associations : List InverseAssociation
  deriving DecidableEq

namespace Metadata

/-- The field of the identifier. -/
def identifier (m : Metadata) : PersistentField := m.fields[m.idIndex]

/-- The persistent fields other than the identifier. -/
def nonIdFields (m : Metadata) : List PersistentField := m.fields.eraseIdx m.idIndex

/-- The fields with a plain column other than the identifier. -/
def simpleFields (m : Metadata) : List PersistentField :=
  m.fields.filter fun f => f.role == .simple

/-- The references, each with its target. -/
def references (m : Metadata) : List (PersistentField × String) :=
  m.fields.filterMap fun f => f.role.target?.map fun target => (f, target)

/-- Whether the type has references. -/
def hasReferences (m : Metadata) : Bool := m.fields.any PersistentField.isReference

/-- The columns in the order in which they are selected. -/
def columnNames (m : Metadata) : List String := m.fields.map PersistentField.column

/-- The association of a field without a column. -/
def association? (m : Metadata) (field : String) : Option InverseAssociation :=
  m.associations.find? fun a => a.field == field

end Metadata

end EntitySession
