import EntitySession.Association.Collection
import EntitySession.Association.Reference
import EntitySession.Metadata.Resolve

/-!
# Entities

An entity type is an `EntityClass`: its mapping, its constructor, and accessors that read, write and
bind a field by its name.  Nothing else is known of it; the state of an instance is a `Record`, and
what the accessors make of a record is their own affair.

A `Schema` finds the class of a type by its name, which stands for the identity of the type as it does
in `EntitySession.Mapping`.

A field that is a reference reads as that reference.  What is then seen of it is the value of its
join column, and finding that value is left to the heap, since it may be the identifier of another
instance.
-/

set_option autoImplicit false

namespace EntitySession

/-- The value of an association field, with the type of the instances that it holds. -/
inductive Link where
  | reference (held : String) (r : Reference)
  | collection (held : String) (c : Collection)
  deriving DecidableEq

namespace Link

/-- The reference of a to-one link. -/
def reference? : Link → Option Reference
  | reference _ r => some r
  | collection _ _ => none

/-- The link that a binding describes, in the same container as a given one. -/
def bind (l : Link) (b : Binding) : Except Error Link :=
  match l with
  | reference held _ => (Reference.ofBinding b held).map (reference held)
  | collection held c => (Collection.ofBinding b held c.distinct).map (collection held)

/-- The link as it shows itself. -/
def describe (cells : Cells) : Link → String
  | reference held r => r.describe held
  | collection held c => c.describe held cells

end Link

/-- The state of an instance: the values of its plain fields and its association values. -/
structure Record where
  values : List (String × Value)
  links : List (String × Link)

namespace Record

/-- Replaces the first entry under a name. -/
def replace {α : Type} (name : String) (x : α) : List (String × α) → List (String × α)
  | [] => []
  | (n, y) :: rest => if n = name then (n, x) :: rest else (n, y) :: replace name x rest

/-- A replacement shows at its own name only, and only where there was an entry. -/
theorem lookup_replace {α : Type} (name other : String) (x : α) (entries : List (String × α)) :
    (replace name x entries).lookup other =
      if name = other then (entries.lookup other).map fun _ => x else entries.lookup other := by
  induction entries with
  | nil => simp [replace]
  | cons e rest ih =>
    obtain ⟨n, y⟩ := e
    by_cases hn : n = name
    · subst hn
      by_cases ho : n = other
      · subst ho
        simp [replace]
      · have ho' : (other == n) = false := by simpa using fun h => ho h.symm
        simp [replace, List.lookup_cons, ho, ho']
    · rw [replace, if_neg hn, List.lookup_cons, List.lookup_cons, ih]
      by_cases ho : other = n
      · subst ho
        simp [Ne.symm hn]
      · have ho' : (other == n) = false := by simpa using ho
        simp [ho']

/-- The value of a plain field. -/
def value? (r : Record) (name : String) : Option Value := r.values.lookup name

/-- The association value of a field. -/
def link? (r : Record) (name : String) : Option Link := r.links.lookup name

/-- The record with another value in a plain field. -/
def setValue (r : Record) (name : String) (v : Value) : Record :=
  { r with values := replace name v r.values }

/-- The record with another association value in a field. -/
def setLink (r : Record) (name : String) (l : Link) : Record :=
  { r with links := replace name l r.links }

end Record

/-- What reading a field gives. -/
inductive Reading where
  | value (v : Value)
  /-- A reference, of which the value of its join column is seen. -/
  | reference (r : Reference)

/-- What is known of an entity type. -/
structure EntityClass where
  mapping : Mapping
  /-- The state of a new instance. -/
  construct : Except InstantiationFault Record
  /-- Reads the identifier, a simple field or a reference. -/
  read : Record → String → Except Error Reading
  /-- Writes the identifier or a simple field. -/
  write : Record → String → Value → Except Error Record
  /-- Installs an association value. -/
  bind : Record → String → Binding → Except Error Record

/-- The class of every type, by its name. -/
abbrev Schema : Type := String → EntityClass

namespace Schema

/-- The mapping of every type. -/
def mappings (S : Schema) : Mappings := fun entity => (S entity).mapping

/-- The metadata of a type. -/
def metadata (S : Schema) (entity : String) : Except Error Metadata := S.mappings.resolve entity

/-- What keeps a type from giving instances. -/
def constructionFault (S : Schema) (entity : String) : Option InstantiationFault :=
  match (S entity).construct with
  | .ok _ => none
  | .error why => some why

end Schema

end EntitySession
