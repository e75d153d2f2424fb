import EntitySession.Metadata.Resolve

/-!
# Registered types

A registry remembers the metadata of the types that were registered with it, so that mistakes in a
mapping show when it is filled and not on first use.  Registering a type again changes nothing but
the metadata kept for it.
-/

set_option autoImplicit false

namespace EntitySession

/-- The metadata of registered types, by the name of the type. -/
structure Registry where
  entries : List (String × Metadata)

namespace Registry

/-- A registry without types. -/
def empty : Registry := ⟨[]⟩

/-- How many types are registered. -/
def size (r : Registry) : Nat := r.entries.length

/-- The metadata of a registered type. -/
def get? (r : Registry) (entity : String) : Option Metadata := r.entries.lookup entity

/-- Whether a type is registered. -/
def contains (r : Registry) (entity : String) : Bool := (r.get? entity).isSome

/-- The registry with the metadata of one more type. -/
def insert (r : Registry) (entity : String) (m : Metadata) : Registry :=
  if r.contains entity then
    ⟨r.entries.map fun e => if e.1 == entity then (entity, m) else e⟩
  else ⟨r.entries ++ [(entity, m)]⟩

/-- Resolves a type and remembers its metadata. -/
def register (r : Registry) (ms : Mappings) (entity : String) : Except Error (Registry × Metadata) := do
  let m ← ms.resolve entity
  .ok (r.insert entity m, m)

/-- The tables of the registered types, ordered by name. -/
def tables (r : Registry) : List Table :=
  (r.entries.map fun e => e.2.table).mergeSort fun a b => decide (a.name ≤ b.name)

end Registry

end EntitySession
