import EntitySession.Entity
import EntitySession.Key

/-!
# Live instances

The heap holds the instances that a program and its sessions share, each with its type and its
present state, and the cells in which collections keep what they have loaded.  An instance is known by
its position, which never changes.

Everything that a session asks of an instance is computed here from its accessors: its identifier in
the declared form (`Heap.id`), its key, the values of its columns.  The value of a reference is the
identifier of its target, so reading one looks at a second instance, but never at a third: an
identifier is a plain value.
-/

set_option autoImplicit false

namespace EntitySession

/-- An instance: its type and its state. -/
structure Instance where
  entity : String
  record : Record

/-- All instances and the results of loads. -/
structure Heap where
  instances : Array Instance
  cells : Cells

namespace Heap

/-- A heap without instances. -/
def empty : Heap := ⟨#[], #[]⟩

/-- The error of using an instance that does not exist. -/
def missing {α : Type} : Except Error α := .error (Fault.entity "" none none .unexpectedType).error

/-- The type of an instance. -/
def typeOf (h : Heap) (i : InstanceId) : String := ((h.instances[i]?).map Instance.entity).getD ""

/-- Adds an instance. -/
def add (h : Heap) (entity : String) (record : Record) : InstanceId × Heap :=
  (h.instances.size, { h with instances := h.instances.push ⟨entity, record⟩ })

/-- Reserves cells for the results of loads; the number of the first is returned. -/
def reserve (h : Heap) (count : Nat) : CellId × Heap :=
  (h.cells.size, { h with cells := h.cells ++ Array.replicate count none })

/-- Keeps the result of a load. -/
def fillCell (h : Heap) (cell : CellId) (items : List InstanceId) : Heap :=
  { h with cells := h.cells.setIfInBounds cell (some items) }

/-- Replaces the state of an instance. -/
def setRecord (h : Heap) (i : InstanceId) (record : Record) : Heap :=
  { h with instances := h.instances.modify i fun x => { x with record := record } }

/-! ## Reading -/

/-- Reads a field as its accessor gives it. -/
def read (S : Schema) (h : Heap) (i : InstanceId) (field : String) : Except Error Reading :=
  match h.instances[i]? with
  | some x => (S x.entity).read x.record field
  | none => missing

/-- The identifier of an instance in its declared form.  The accessor of an identifier gives a value; for
one that gave a reference the heap has an answer of its own, that there is no such field. -/
def id (S : Schema) (h : Heap) (i : InstanceId) : Except Error Value := do
  let m ← S.metadata (h.typeOf i)
  match ← h.read S i m.identifier.name with
  | .value v => v.cast m.identifier.sqlType
  | .reference _ => .error (.unknownField (h.typeOf i) m.identifier.name)

/-- The key of an instance. -/
def key (S : Schema) (h : Heap) (i : InstanceId) : Except Error EntityKey := do
  let id ← h.id S i
  .ok ⟨h.typeOf i, id⟩

/-- Reads a field; of a reference, what is written to its join column. -/
def get (S : Schema) (h : Heap) (i : InstanceId) (field : String) : Except Error Value := do
  match ← h.read S i field with
  | .value v => .ok v
  | .reference r => r.foreignKey (h.id S)

/-- Reads several fields. -/
def getMany (S : Schema) (h : Heap) (i : InstanceId) (fields : List String) :
    Except Error (List Value) :=
  fields.mapM (h.get S i)

/-- The present values of the simple columns. -/
def columnValues (S : Schema) (h : Heap) (i : InstanceId) : Except Error (List ColumnValue) := do
  let m ← S.metadata (h.typeOf i)
  m.simpleFields.mapM fun f => do
    let v ← h.get S i f.name
    .ok ⟨f.column, v⟩

/-- The present values of the join columns, in the form of the identifiers that they refer to. -/
def relationValues (S : Schema) (h : Heap) (i : InstanceId) : Except Error (List RelationValue) := do
  let m ← S.metadata (h.typeOf i)
  m.references.mapM fun (f, target) => do
    let v ← h.get S i f.name
    let v ← v.cast f.sqlType
    .ok ⟨target, f.column, v⟩

/-! ## Writing -/

/-- Writes a field. -/
def set (S : Schema) (h : Heap) (i : InstanceId) (field : String) (v : Value) : Except Error Heap :=
  match h.instances[i]? with
  | some x => do
    let record ← (S x.entity).write x.record field v
    .ok (h.setRecord i record)
  | none => missing

/-- Installs an association value. -/
def bind (S : Schema) (h : Heap) (i : InstanceId) (field : String) (b : Binding) :
    Except Error Heap :=
  match h.instances[i]? with
  | some x => do
    let record ← (S x.entity).bind x.record field b
    .ok (h.setRecord i record)
  | none => missing

/-- The association value of a field. -/
def link? (h : Heap) (i : InstanceId) (field : String) : Option Link :=
  (h.instances[i]?).bind fun x => x.record.link? field

/-- Replaces the association value of a field. -/
def setLink (h : Heap) (i : InstanceId) (field : String) (l : Link) : Heap :=
  { h with instances := h.instances.modify i fun x => { x with record := x.record.setLink field l } }

end Heap

end EntitySession
