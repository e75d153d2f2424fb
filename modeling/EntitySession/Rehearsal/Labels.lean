import EntitySession.Association

/-!
# Names of instances

In a rehearsal instances are called by names.  A name may be given to another instance later, but an
instance keeps its label: the first name that it was given, or a number if it was met without one.
The label of a numbered instance is a name for it as well.
-/

set_option autoImplicit false

namespace EntitySession.Rehearsal

/-- The names and labels of instances. -/
structure Labels where
  /-- Whom each name means, the latest entry first. -/
  names : List (String × InstanceId)
  labels : List (InstanceId × String)
  /-- How many instances were numbered. -/
  numbered : Nat

namespace Labels

/-- No instance has a name. -/
def empty : Labels := ⟨[], [], 0⟩

/-- Whom a name means. -/
def find? (l : Labels) (name : String) : Option InstanceId := l.names.lookup name

/-- Gives a name to an instance. -/
def give (l : Labels) (name : String) (i : InstanceId) : Labels :=
  { l with
    names := (name, i) :: l.names
    labels := if (l.labels.lookup i).isSome then l.labels else (i, name) :: l.labels }

/-- The label of an instance, which is numbered if it has none. -/
def label (l : Labels) (i : InstanceId) : String × Labels :=
  match l.labels.lookup i with
  | some s => (s, l)
  | none =>
    let s := "#" ++ toString (l.numbered + 1)
    (s, { l.give s i with numbered := l.numbered + 1 })

end Labels

end EntitySession.Rehearsal
