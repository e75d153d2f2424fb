import EntitySession.Act
import EntitySession.Hydration

/-!
# What lies outside

Everything a program's sessions do goes to a state `δ` about which nothing is assumed: databases,
reached over connections (`Database`), and the code of others that is called back (`Callbacks`).  Each
call may fail, and may change the state either way.

A `Site` is what all the sessions of a program share: the instances, what lies outside, and the log of
the statements that were sent.
-/

set_option autoImplicit false

namespace EntitySession

/-- A connection, known by its number. -/
abbrev ConnectionId : Type := Nat

/-- The outcome of a statement that inserts rows. -/
structure InsertResult where
  rows : Nat
  /-- The identifiers that the database has generated, in the order of the rows. -/
  keys : List Value

/-- The first identifier that was generated. -/
def InsertResult.generatedKey? (r : InsertResult) : Option Value := r.keys.head?

/-- Connections.  While automatic commit is on, every statement is a transaction of its own; turning
it off begins one that lasts until it is committed or rolled back. -/
class Database (δ : Type) where
  /-- Runs a statement that gives rows. -/
  query : ConnectionId → String → List Value → δ → Except Error (List Row) × δ
  /-- Runs a statement that changes rows; how many is the answer. -/
  execute : ConnectionId → String → List Value → δ → Except Error Nat × δ
  /-- Runs a statement that inserts rows. -/
  insert : ConnectionId → String → List Value → δ → Except Error InsertResult × δ
  /-- Turns automatic commit on or off. -/
  setAutoCommit : ConnectionId → Bool → δ → Except Error Unit × δ
  commit : ConnectionId → δ → Except Error Unit × δ
  rollback : ConnectionId → δ → Except Error Unit × δ
  close : ConnectionId → δ → Except Error Unit × δ

/-- The code of others that is called back. -/
class Callbacks (δ : Type) where
  /-- Loads the instance of a type with an identifier. -/
  loadOne : String → Value → δ → Except Error (Option InstanceId) × δ
  /-- Loads the instances that a query selects. -/
  loadMany : AssociationQuery → δ → Except Error (List InstanceId) × δ
  /-- Runs the supplier with a number. -/
  supply : Nat → δ → Except Error (List InstanceId) × δ
  /-- Runs the action with a number. -/
  performAction : Nat → δ → Except Error Unit × δ

/-- A statement that was sent, and whether it was logged for the user to see. -/
structure LogLine where
  shown : Bool
  sql : String
  deriving DecidableEq

/-- What all sessions of a program share. -/
structure Site (δ : Type) where
  heap : Heap
  outside : δ
  /-- The statements that were sent, the latest last. -/
  log : List LogLine

namespace Site

variable {δ α : Type}

/-- A call to the outside. -/
def call (f : δ → Except Error α × δ) : Act (Site δ) α :=
  .of fun s =>
    let (r, outside) := f s.outside
    (r, { s with outside := outside })

/-- Looks at the instances. -/
def look (f : Heap → Except Error α) : Act (Site δ) α := .reading fun s => f s.heap

/-- Changes the instances; a failure changes nothing. -/
def change (f : Heap → Except Error (α × Heap)) : Act (Site δ) α :=
  .of fun s =>
    match f s.heap with
    | .ok (a, heap) => (.ok a, { s with heap := heap })
    | .error e => (.error e, s)

/-- Records a statement in the log. -/
def note (shown : Bool) (sql : String) : Act (Site δ) Unit :=
  .of fun s => (.ok (), { s with log := s.log ++ [⟨shown, sql⟩] })

end Site

end EntitySession
