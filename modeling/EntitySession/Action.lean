import EntitySession.Choices
import EntitySession.Gateway

/-!
# Deferred writes

A write that waits for the next flush is an `Action`, and the actions of a session wait in a queue.
Inserts are more urgent than updates and updates more than deletes; among equally urgent actions the
order is open.

A queue is a heap, out of which the greatest element is taken.  So `Queued` reverses the order of the
urgency: the smaller the number, the greater the element.  There may be several that no other exceeds, and
`Queue.pop?` takes one of them, whichever the choices say.  `Queue.drain` runs all actions; the first
failure ends it, and what is left is discarded.
-/

set_option autoImplicit false

namespace EntitySession

/-- A write that waits. -/
inductive Action where
  /-- Insert an instance. -/
  | insert (gateway : Gateway) (entity : String) (subject : InstanceId)
  /-- Update columns of the row with a key and make the present state its baseline. -/
  | update (gateway : Gateway) (key : EntityKey) (columns : List ColumnValue)
  /-- Delete the row with a key. -/
  | delete (gateway : Gateway) (key : EntityKey)
  /-- The action of somebody outside with the given number. -/
  | outside (number : Nat) (name : String) (priority : UInt8)

namespace Action

/-- How urgent an action is: what has a smaller number runs earlier. -/
def priority : Action → UInt8
  | insert _ _ _ => 1
  | update _ _ _ => 2
  | delete _ _ => 3
  | outside _ _ priority => priority

/-- An action in a few words. -/
def describe : Action → String
  | insert _ entity _ => "insert " ++ entity
  | update _ key _ => "update " ++ key.display
  | delete _ key => "delete " ++ key.display
  | outside _ name _ => name

end Action

/-- An action as an element of a heap. -/
structure Queued where
  action : Action

namespace Queued

/-- Elements are equal if their actions are equally urgent. -/
instance : BEq Queued where
  beq a b := a.action.priority == b.action.priority

/-- The order of the elements is the reverse of that of the numbers. -/
instance : Ord Queued where
  compare a b := compare b.action.priority a.action.priority

instance : Std.LawfulBEqOrd Queued where
  compare_eq_iff_beq {a b} := by
    change compare b.action.priority a.action.priority = .eq ↔
      (a.action.priority == b.action.priority) = true
    rw [Std.compare_eq_iff_eq, beq_iff_eq, eq_comm]

end Queued

/-- The actions that wait, in the order in which they came. -/
structure Queue where
  pending : List Action

namespace Queue

/-- A queue in which nothing waits. -/
def empty : Queue := ⟨[]⟩

/-- How many actions wait. -/
def size (q : Queue) : Nat := q.pending.length

/-- The queue as it shows itself. -/
def describe (q : Queue) : String := "ActionQueue \x7b pending: " ++ toString q.size ++ " \x7d"

/-- The queue with one more action. -/
def push (q : Queue) (a : Action) : Queue := ⟨q.pending ++ [a]⟩

/-- The positions of the elements that no element exceeds. -/
def greatest {α : Type} [Ord α] (xs : List α) : List Nat :=
  (List.range xs.length).filter fun i =>
    match xs[i]? with
    | some x => xs.all fun y => compare y x != .gt
    | none => false

/-- Takes out an action that is greatest among those that wait. -/
def pop? (q : Queue) (c : Choices) : Option (Action × Queue × Choices) :=
  let candidates := greatest (q.pending.map Queued.mk)
  let (n, c) := c.draw candidates.length
  match candidates[n]? with
  | none => none
  | some i => (q.pending[i]?).map fun a => (a, ⟨q.pending.eraseIdx i⟩, c)

/-- Drops all actions that wait; how many they were is the answer. -/
def discard (q : Queue) : Nat × Queue := (q.size, empty)

/-- Runs actions until none waits or one fails, which discards what is left; how many have run is the
answer.  There are never more rounds than actions. -/
def drainRounds {σ : Type} (run : Action → Act σ Unit) :
    Nat → Queue → Choices → Nat → σ → (Except Error Nat × σ) × Queue × Choices
  | 0, q, c, executed, s => ((.ok executed, s), q, c)
  | rounds + 1, q, c, executed, s =>
    match q.pop? c with
    | none => ((.ok executed, s), q, c)
    | some (a, q, c) =>
      match (run a).perform s with
      | (.ok (), s) => drainRounds run rounds q c (executed + 1) s
      | (.error e, s) => ((.error e, s), q.discard.2, c)

/-- Runs all actions in the order of their urgency.  The first failure ends it. -/
def drain {σ : Type} (run : Action → Act σ Unit) (q : Queue) (c : Choices) (s : σ) :
    (Except Error Nat × σ) × Queue × Choices :=
  drainRounds run q.size q c 0 s

end Queue

end EntitySession
