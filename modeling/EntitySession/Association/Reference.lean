import EntitySession.Association

/-!
# References

A `Reference` is the value of a to-one association: nothing, a target that is there, or a target that
is loaded on first access.  A reference that has to be loaded keeps the value of its join column, so
what is written to that column is known without a load; once the load has succeeded the target itself
decides, and setting a reference forgets that there was anything to load.
-/

set_option autoImplicit false

namespace EntitySession

/-- The value of a to-one association. -/
inductive Reference where
  /-- No target. -/
  | empty
  /-- A target that is there. -/
  | loaded (target : InstanceId)
  /-- A target to be loaded: the value of the join column, the result of the load once it has
  succeeded, and how to get it. -/
  | unloaded (key : Value) (result : Option (Option InstanceId)) (supplier : Supplier)
  deriving DecidableEq

namespace Reference

/-- The reference that a binding describes, for instances of the given type. -/
def ofBinding (b : Binding) (held : String) : Except Error Reference := do
  b.checkTarget held
  match b.shape with
  | .collection _ => b.refuse .collectionAsReference
  | .toOne =>
    match b.targetFault with
    | some why => b.refuse (.cannotInstantiate b.target why)
    | none =>
      match b.request with
      | .byKey _ key => .ok (if key.isNull then .empty else .unloaded key none b.supplier)
      | .byQuery _ => .ok (.unloaded .null none b.supplier)

/-- The result if it is there: absent while a load is due, otherwise the target if there is one. -/
def result? : Reference → Option (Option InstanceId)
  | empty => some none
  | loaded target => some (some target)
  | unloaded _ result _ => result

/-- The target if it is there. -/
def get? (r : Reference) : Option InstanceId := r.result?.join

/-- Whether no load is due. -/
def isLoaded (r : Reference) : Bool := r.result?.isSome

/-- The reference after its load has succeeded. -/
def fill (r : Reference) (result : Option InstanceId) : Reference :=
  match r with
  | unloaded key none supplier => unloaded key (some result) supplier
  | r => r

/-- The reference to a given target, or to none. -/
def ofTarget : Option InstanceId → Reference
  | some target => loaded target
  | none => empty

@[simp] theorem result?_ofTarget (target : Option InstanceId) :
    (ofTarget target).result? = some target := by
  cases target <;> rfl

/-- What is written to the join column: the present identifier of the target, NULL without one, and
the value read from the row as long as the load is due. -/
def foreignKey (idOf : InstanceId → Except Error Value) : Reference → Except Error Value
  | empty => .ok .null
  | loaded target => idOf target
  | unloaded key none _ => .ok key
  | unloaded _ (some none) _ => .ok .null
  | unloaded _ (some (some target)) _ => idOf target

/-- The reference as it shows itself, for instances of the given type. -/
def describe (held : String) : Reference → String
  | empty => "ToOne::Empty"
  | loaded _ => "ToOne::Loaded(" ++ held ++ ")"
  | unloaded key _ _ => "ToOne::Unloaded(" ++ held ++ "#" ++ key.display ++ ")"

end Reference

end EntitySession
