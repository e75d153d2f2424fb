import EntitySession.Entity
import EntitySession.Value.Carrier

/-!
# Declared classes

An entity type need not be written by hand: a `Declaration` lists its fields and how each is held, and
`Declaration.toClass` makes the class.  A plain field is held as a value of any kind or in a native
type; an association is held in a container for instances of some type, which may be another one than
the mapping says.

A name that is not declared is an unknown field to every accessor.  Where a name is declared twice the
first declaration counts.
-/

set_option autoImplicit false

namespace EntitySession

/-- How a field is held. -/
inductive Holding where
  /-- A value of any kind, NULL at first. -/
  | anyValue
  /-- Data of a native type. -/
  | native (slot : Slot)
  /-- An association value, at first the given one; whether a binding may replace it. -/
  | container (initial : Link) (bindable : Bool)

/-- A field of a declared class. -/
structure DeclaredField where
  field : Field
  holding : Holding

namespace DeclaredField

/-- What a plain field holds at first. -/
def initialValue? (f : DeclaredField) : Option (String × Value) :=
  match f.holding with
  | .anyValue => some (f.field.name, .null)
  | .native slot => some (f.field.name, slot.initial)
  | .container _ _ => none

/-- What an association field holds at first. -/
def initialLink? (f : DeclaredField) : Option (String × Link) :=
  match f.holding with
  | .container l _ => some (f.field.name, l)
  | _ => none

end DeclaredField

/-- A class given by its fields. -/
structure Declaration where
  entity : String
  marked : Bool
  table : Option String
  fields : List DeclaredField
  /-- What keeps the class from giving instances. -/
  constructionFault : Option InstantiationFault
  /-- Whether instances accept bindings at all. -/
  bindable : Bool

namespace Declaration

/-- The class that is no entity and has no fields. -/
def unmarked (entity : String) : Declaration := ⟨entity, false, none, [], none, false⟩

/-- The mapping of the class. -/
def mapping (d : Declaration) : Mapping :=
  { marked := d.marked
    table := d.table
    fields := d.fields.map DeclaredField.field }

/-- The holding of a field. -/
def holding? (d : Declaration) (name : String) : Option Holding :=
  (d.fields.find? fun f => f.field.name == name).map DeclaredField.holding

/-- The fields whose name was not declared before. -/
def firstFields : List DeclaredField → List String → List DeclaredField
  | [], _ => []
  | f :: rest, seen =>
    if seen.contains f.field.name then firstFields rest seen
    else f :: firstFields rest (f.field.name :: seen)

/-- The state of an instance that was just made. -/
def initial (d : Declaration) : Record :=
  let fields := firstFields d.fields []
  ⟨fields.filterMap DeclaredField.initialValue?, fields.filterMap DeclaredField.initialLink?⟩

/-- Reads a plain field or a reference. -/
def read (d : Declaration) (r : Record) (name : String) : Except Error Reading :=
  match d.holding? name with
  | some (.container _ _) =>
    match (r.link? name).bind Link.reference? with
    | some reference => .ok (.reference reference)
    | none => .error (.unknownField d.entity name)
  | some _ => .ok (.value ((r.value? name).getD .null))
  | none => .error (.unknownField d.entity name)

/-- Writes a plain field. -/
def write (d : Declaration) (r : Record) (name : String) (v : Value) : Except Error Record :=
  match d.holding? name with
  | some .anyValue => .ok (r.setValue name v)
  | some (.native slot) => do
    let v ← slot.pass v
    .ok (r.setValue name v)
  | _ => .error (.unknownField d.entity name)

/-- Installs the association value that a binding describes, in the container that the field is
declared with, whatever it may hold by now. -/
def bind (d : Declaration) (r : Record) (name : String) (b : Binding) : Except Error Record :=
  match d.bindable, d.holding? name with
  | true, some (.container initial true) => do
    let l ← initial.bind b
    .ok (r.setLink name l)
  | _, _ => .error (.unknownField d.entity name)

/-- The class itself. -/
def toClass (d : Declaration) : EntityClass where
  mapping := d.mapping
  construct :=
    match d.constructionFault with
    | some why => .error why
    | none => .ok d.initial
  read := d.read
  write := d.write
  bind := d.bind

/-- The declaration of a type in a list; a type that is not declared is no entity. -/
def named (ds : List Declaration) (entity : String) : Declaration :=
  (ds.find? fun d => d.entity == entity).getD (unmarked entity)

/-- The classes of a list of declarations. -/
def schema (ds : List Declaration) : Schema := fun entity => (named ds entity).toClass

end Declaration

end EntitySession
