import EntitySession.Heap
import EntitySession.Row

/-!
# From a row to an instance

`Hydration.record` makes the state of a new instance from a result row.  Fields with a column are
looked up by the name of the column and, where the result is labelled otherwise, by their position;
their values are cast to the declared type and written or, for a reference, bound.  After the columns
the associations without one are bound, for the identifier just read.

The cells of the associations are numbered from the first free one, in order.
-/

set_option autoImplicit false

namespace EntitySession

namespace Hydration

/-- A fault of a field, caused by an accessor or by a value that does not fit. -/
def unmapped (entity field : String) (cause : Error) : Error :=
  (Fault.entity entity none none (.cannotMapColumn field)).causedBy cause

/-- The cell of a field in a row. -/
def cellOf (entity : String) (row : Row) (position : Nat) (f : PersistentField) : Except Error Value :=
  match row.namedOrAt? f.column position with
  | some v => .ok v
  | none => .error (Fault.entity entity none none (.missingColumn f.column)).error

/-- Reads the fields with a column, the first at the given position, into a record; the value of the
identifier is returned with it. -/
def readFields (S : Schema) (loader : Loader) (entity : String) (row : Row) :
    Nat → List PersistentField → Value → Record → Except Error (Value × Record)
  | _, [], ownerId, record => .ok (ownerId, record)
  | position, f :: rest, ownerId, record => do
    let raw ← cellOf entity row position f
    let v ← (raw.cast f.sqlType).mapError (unmapped entity f.name)
    match f.role with
    | .reference target =>
      let b := Binding.reference entity f.name target v loader (S.constructionFault target)
      let record ← (S entity).bind record f.name b
      readFields S loader entity row (position + 1) rest ownerId record
    | .identifier =>
      let record ← ((S entity).write record f.name v).mapError (unmapped entity f.name)
      readFields S loader entity row (position + 1) rest v record
    | .simple =>
      let record ← ((S entity).write record f.name v).mapError (unmapped entity f.name)
      readFields S loader entity row (position + 1) rest ownerId record

/-- Binds the associations without a column, the first one with the given cell. -/
def bindAssociations (S : Schema) (loader : Loader) (entity : String) (ownerId : Value) :
    CellId → List InverseAssociation → Record → Except Error Record
  | _, [], record => .ok record
  | cell, a :: rest, record => do
    let b ← Binding.inverse entity a ownerId loader (S.constructionFault a.target) cell
    let record ← (S entity).bind record a.field b
    bindAssociations S loader entity ownerId (cell + 1) rest record

/-- The state of the instance that a row describes. -/
def record (S : Schema) (loader : Loader) (m : Metadata) (row : Row) (firstCell : CellId) :
    Except Error Record := do
  match (S m.entity).construct with
  | .error why => .error (Fault.entity m.entity none none (.cannotInstantiate why)).error
  | .ok fresh =>
    let (ownerId, record) ← readFields S loader m.entity row 0 m.fields .null fresh
    bindAssociations S loader m.entity ownerId firstCell m.associations record

end Hydration

namespace Heap

/-- Adds the instance that a row describes. -/
def hydrate (S : Schema) (h : Heap) (loader : Loader) (entity : String) (row : Row) :
    Except Error (InstanceId × Heap) := do
  let m ← S.metadata entity
  let (firstCell, h) := h.reserve m.associations.length
  let record ← Hydration.record S loader m row firstCell
  .ok (h.add entity record)

end Heap

end EntitySession
