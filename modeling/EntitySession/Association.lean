import EntitySession.Error
import EntitySession.Metadata
import EntitySession.Text.Quoted

/-!
# Bindings

When a row becomes an instance, every association of the instance is handed a `Binding`: who owns
it, what it leads to, in which shape, and how its targets are found.  The instance turns the binding
into a container of its own choice, which fails when the container does not fit.

Nothing is loaded at that point.  What a container keeps is a `Supplier`, which says what is to be
asked of whom on first access: a `Loader` is either a session or somebody outside.
-/

set_option autoImplicit false

namespace EntitySession

/-- A live instance, known by its number in the heap. -/
abbrev InstanceId : Type := Nat

/-- A place that keeps the result of a load for all the containers that share it. -/
abbrev CellId : Type := Nat

/-- The selection of the targets of an association for one owner. -/
structure AssociationQuery where
  target : String
  source : AssociationSource
  /-- The identifier of the owner. -/
  ownerId : Value
  deriving DecidableEq

/-- Whom a container asks for its targets. -/
inductive Loader where
  /-- The session with the given number. -/
  | session (id : Nat)
  /-- Somebody outside. -/
  | outside
  deriving DecidableEq

/-- What is asked on the first access to a container. -/
inductive Request where
  /-- The target with an identifier. -/
  | byKey (target : String) (id : Value)
  /-- The targets that a query selects. -/
  | byQuery (query : AssociationQuery)
  deriving DecidableEq

/-- How a container gets its targets. -/
inductive Supplier where
  /-- A request to a loader, on behalf of a field. -/
  | request (owner field : String) (loader : Loader) (request : Request)
  /-- The supplier of somebody outside with the given number. -/
  | outside (number : Nat)
  deriving DecidableEq

/-- The words of a collection kind. -/
def CollectionKind.describe : CollectionKind → String
  | list => "List"
  | set => "Set"
  | other name => "Other(" ++ Text.quote name ++ ")"

/-- The shape of an association value. -/
inductive Shape where
  | toOne
  | collection (kind : CollectionKind)
  deriving DecidableEq

/-- The words of a shape. -/
def Shape.describe : Shape → String
  | toOne => "ToOne"
  | collection kind => "Collection(" ++ kind.describe ++ ")"

/-- All that is needed to make the value of an association field. -/
structure Binding where
  owner : String
  field : String
  target : String
  shape : Shape
  request : Request
  loader : Loader
  /-- What keeps the target type from giving instances. -/
  targetFault : Option InstantiationFault
  /-- The place that is reserved for the result of the load. -/
  cell : CellId

namespace Binding

/-- The fault of an association as an error about the field of the binding. -/
def refuse {α : Type} (b : Binding) (why : AssociationFault) : Except Error α :=
  .error (Fault.association b.owner (some b.field) why).error

/-- The binding of an owning to-one field whose join column holds the given value. -/
def reference (owner field target : String) (key : Value) (loader : Loader)
    (targetFault : Option InstantiationFault) : Binding :=
  { owner, field, target, loader, targetFault
    shape := .toOne
    request := .byKey target key
    cell := 0 }

/-- The binding of an association without a column, for the owner with the given identifier.  Only
lists and sets can be loaded. -/
def inverse (owner : String) (a : InverseAssociation) (ownerId : Value) (loader : Loader)
    (targetFault : Option InstantiationFault) (cell : CellId) : Except Error Binding :=
  let binding (shape : Shape) : Binding :=
    { owner, loader, targetFault, shape, cell
      field := a.field
      target := a.target
      request := .byQuery ⟨a.target, a.source, ownerId⟩ }
  if a.kind.isToOne then .ok (binding .toOne)
  else match a.collection with
    | .other name =>
      .error (Fault.association owner (some a.field) (.unsupportedCollection name)).error
    | kind => .ok (binding (.collection kind))

/-- Accepts containers of the declared target only. -/
def checkTarget (b : Binding) (held : String) : Except Error Unit :=
  if b.target = held then .ok () else b.refuse (.targetMismatch b.target held)

/-- The binding as it shows itself. -/
def describe (b : Binding) : String :=
  "AssociationBinding \x7b owner: " ++ b.owner ++ ", field: " ++ Text.quote b.field ++ ", target: "
    ++ b.target ++ ", shape: " ++ b.shape.describe ++ ", .. \x7d"

/-- How the container of the binding gets its targets. -/
def supplier (b : Binding) : Supplier := .request b.owner b.field b.loader b.request

end Binding

end EntitySession
