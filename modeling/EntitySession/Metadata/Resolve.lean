import EntitySession.Error
import EntitySession.Metadata
import EntitySession.Text.Folding

/-!
# Resolving a mapping

`Mappings.resolve` computes the metadata of a type or the first fault of its mapping.  The order in
which faults are looked for is fixed: the marker, the name of the table, the identifier, then field
by field, and last the columns that several fields share.

Names that go into statements have to be identifiers (`isIdentifier`): ASCII letters, digits and
underscores, no digit first.  The one name that is taken over from another type without being looked
at is the join column of an association that the target maps; it is looked at when the target itself
is resolved.
-/

set_option autoImplicit false

namespace EntitySession

/-- Whether a name can stand in a statement as it is. -/
def isIdentifier (name : String) : Bool :=
  match name.toList with
  | [] => false
  | c :: rest => (c.isAlpha || c == '_') && rest.all fun d => d.isAlphanum || d == '_'

namespace Mappings

/-- The fault of a mapping as an error about its type. -/
def refuse {α : Type} (entity : String) (why : MappingFault) : Except Error α :=
  .error (Fault.mapping entity why).error

/-- Accepts a name that is an identifier. -/
def checkName (entity what name : String) : Except Error Unit :=
  if isIdentifier name then .ok () else refuse entity (.invalidName what name)

/-- Accepts a mapping with exactly one identifier that is no association. -/
def checkIdentifier (entity : String) (m : Mapping) : Except Error Unit :=
  match m.idFields with
  | [] => refuse entity .noIdentifier
  | [f] => if f.isSimple then .ok () else refuse entity (.identifierIsAssociation f.name)
  | fs => refuse entity (.manyIdentifiers (fs.map Field.name))

/-- The declared type of the identifier of the target of a reference. -/
def targetIdType (ms : Mappings) (entity field target : String) : Except Error SqlType :=
  let m := ms target
  if !m.marked then refuse entity (.targetNotMarked field target)
  else match m.idFields with
    | f :: _ => .ok f.sqlType
    | [] => refuse entity (.targetWithoutIdentifier field target)

/-- What one declared field contributes. -/
inductive Part where
  /-- A field with a column, and the foreign key of a reference. -/
  | persistent (field : PersistentField) (column : Column) (key : Option ForeignKey)
  | inverse (association : InverseAssociation)

/-- The part of a field that is no association. -/
def resolveSimple (entity : String) (f : Field) : Except Error Part := do
  checkName entity "column" f.columnName
  .ok (.persistent
    { name := f.name
      column := f.columnName
      sqlType := f.sqlType
      role := if f.isId then .identifier else .simple }
    { logicalName := f.name
      name := f.columnName
      sqlType := f.sqlType
      nullable := f.column.nullable && !f.isId
      unique := f.column.unique
      length := f.column.length
      precision := f.column.precision
      scale := f.column.scale
      primaryKey := f.isId }
    none)

/-- The part of an owning to-one field. -/
def resolveReference (ms : Mappings) (entity : String) (f : Field) (a : Association) :
    Except Error Part := do
  let column := f.joinColumnName
  checkName entity "join column" column
  let idType ← targetIdType ms entity f.name a.target
  .ok (.persistent
    { name := f.name, column := column, sqlType := idType, role := .reference a.target }
    { logicalName := f.name
      name := column
      sqlType := idType
      nullable := f.column.nullable
      unique := f.column.unique || a.kind == .oneToOne
      length := none
      precision := none
      scale := none
      primaryKey := false }
    (some
      { logicalName := f.name
        table := (ms entity).tableName entity
        column := column
        referencedTable := (ms a.target).tableName a.target }))

/-- The field of the target that owns an association. -/
def owningSide (ms : Mappings) (entity : String) (f : Field) (target inverse : String) :
    Except Error Field :=
  match (ms target).field? inverse with
  | some owning => .ok owning
  | none => refuse entity (.mappedByUnknownField f.name target inverse)

/-- The join table of the owning side of a many-to-many association. -/
def owningJoinTable? (owning : Field) : Option JoinTable :=
  owning.association.bind fun a =>
    if a.kind = .manyToMany ∧ a.mappedBy.isNone then a.joinTable else none

/-- Whether a field is a reference to the given type. -/
def refersTo (owning : Field) (entity : String) : Bool :=
  match owning.association with
  | some a => a.isOwningToOne && a.target == entity
  | none => false

/-- Where the targets of an association without a column are found. -/
def resolveSource (ms : Mappings) (entity : String) (f : Field) (a : Association) :
    Except Error AssociationSource :=
  match a.kind, a.mappedBy, a.joinTable with
  | .manyToMany, none, some links => .ok (.joinTable links)
  | .manyToMany, some inverse, _ => do
    let owning ← owningSide ms entity f a.target inverse
    match owningJoinTable? owning with
    | some links => .ok (.joinTable links.swap)
    | none => refuse entity (.mappedByWithoutJoinTable f.name a.target inverse)
  | .manyToMany, none, none => refuse entity (.noJoinTable f.name)
  | _, some inverse, _ => do
    let owning ← owningSide ms entity f a.target inverse
    if refersTo owning entity then .ok (.foreignKey owning.joinColumnName)
    else refuse entity (.mappedByForeignField f.name a.target inverse entity)
  | _, none, _ => refuse entity (.noMappedBy f.name)

/-- Accepts the names of a join table. -/
def checkSource (entity : String) : AssociationSource → Except Error Unit
  | .foreignKey _ => .ok ()
  | .joinTable links => do
    checkName entity "join table" links.table
    checkName entity "join column" links.joinColumn
    checkName entity "join column" links.inverseJoinColumn

/-- The part of an association without a column. -/
def resolveInverse (ms : Mappings) (entity : String) (f : Field) (a : Association) :
    Except Error Part := do
  let source ← resolveSource ms entity f a
  checkSource entity source
  .ok (.inverse
    { field := f.name
      kind := a.kind
      target := a.target
      collection := if a.kind.isToOne then .list else a.collection
      source := source })

/-- The part of a declared field. -/
def resolveField (ms : Mappings) (entity : String) (f : Field) : Except Error Part :=
  match f.association with
  | none => resolveSimple entity f
  | some a => if a.isOwningToOne then resolveReference ms entity f a else resolveInverse ms entity f a

/-- The parts of declared fields, whose names have to differ from each other and from those seen
before. -/
def resolveFields (ms : Mappings) (entity : String) (seen : List String) :
    List Field → Except Error (List Part)
  | [] => .ok []
  | f :: rest => do
    if seen.contains f.name then refuse entity (.repeatedField f.name)
    let part ← resolveField ms entity f
    let parts ← resolveFields ms entity (f.name :: seen) rest
    .ok (part :: parts)

/-- Accepts columns whose names differ without their case. -/
def checkColumns (entity : String) (seen : List String) : List Column → Except Error Unit
  | [] => .ok ()
  | c :: rest =>
    if seen.contains (Text.fold c.name) then refuse entity (.repeatedColumn c.name)
    else checkColumns entity (Text.fold c.name :: seen) rest

namespace Part

/-- The field with a column of a part. -/
def field? : Part → Option PersistentField
  | persistent f _ _ => some f
  | inverse _ => none

/-- The column of a part. -/
def column? : Part → Option Column
  | persistent _ c _ => some c
  | inverse _ => none

/-- The foreign key of a part. -/
def foreignKey? : Part → Option ForeignKey
  | persistent _ _ k => k
  | inverse _ => none

/-- The association without a column of a part. -/
def association? : Part → Option InverseAssociation
  | persistent _ _ _ => none
  | inverse a => some a

end Part

/-- Where the identifier stands among fields that come after `n` others, or `found` if it is not one of
them. -/
def idIndex (found n : Nat) : List PersistentField → Nat
  | [] => found
  | f :: fields => idIndex (if f.role = .identifier then n else found) (n + 1) fields

/-- The metadata of a type. -/
def resolve (ms : Mappings) (entity : String) : Except Error Metadata := do
  let m := ms entity
  if !m.marked then refuse entity .notMarked
  let table := m.tableName entity
  checkName entity "table" table
  checkIdentifier entity m
  let parts ← resolveFields ms entity [] m.fields
  let fields := parts.filterMap Part.field?
  let columns := parts.filterMap Part.column?
  checkColumns entity [] columns
  let index := idIndex 0 0 fields
  -- a mapping that has passed the check of its identifier has a field there
  if h : index < fields.length then
    .ok
      { entity := entity
        table :=
          { name := table
            columns := columns
            foreignKeys := parts.filterMap Part.foreignKey? }
        fields := fields
        idIndex := ⟨index, h⟩
        associations := parts.filterMap Part.association? }
  else refuse entity .noIdentifier

end Mappings

end EntitySession
