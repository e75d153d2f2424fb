import EntitySession.Association

/-!
# What happens outside

An `Event` is one call that reached the surroundings of a rehearsal: a statement, a change of a
transaction, a load, a supplier, an action.  Events are kept in the order in which they happened.

Where that order is left open, `Event.arrange` makes it definite: events that stand together and are
of one sort are put into the order of their texts.
-/

set_option autoImplicit false

namespace EntitySession.Rehearsal

/-- How a statement was sent. -/
inductive Verb where
  | query
  | execute
  | insert
  deriving DecidableEq

/-- The word for a way of sending a statement. -/
def Verb.word : Verb → String
  | query => "query"
  | execute => "execute"
  | insert => "insert"

/-- A call that reached the surroundings. -/
inductive Event where
  | statement (verb : Verb) (connection sql : String) (parameters : List Value)
  | autoCommit (connection : String) (on : Bool)
  | commit (connection : String)
  | rollback (connection : String)
  | close (connection : String)
  | loadOne (target : String) (id : Value)
  | loadMany (query : AssociationQuery)
  | supplier (name : String)
  | action (name : String) (priority : UInt8)

namespace Event

/-- The word for an event. -/
def word : Event → String
  | statement verb _ _ _ => verb.word
  | autoCommit _ _ => "autocommit"
  | commit _ => "commit"
  | rollback _ => "rollback"
  | close _ => "close"
  | loadOne _ _ => "load_one"
  | loadMany _ => "load_many"
  | supplier _ => "supplier"
  | action _ _ => "action"

/-- What an event is about. -/
def subject : Event → String
  | statement _ connection _ _ => connection
  | autoCommit connection _ => connection
  | commit connection => connection
  | rollback connection => connection
  | close connection => connection
  | loadOne target _ => target
  | loadMany query => query.target
  | supplier name => name
  | action name _ => name

/-- The first word of a statement. -/
def firstWord (sql : String) : String := String.ofList (sql.toList.takeWhile (· != ' '))

/-- The sort of an event: its word, and the first word of its statement or its priority. -/
def sort : Event → String × String
  | statement verb _ sql _ => (verb.word, firstWord sql)
  | action name priority => ((action name priority).word, toString priority.toNat)
  | e => (e.word, "")

/-- The texts that order the events of one sort. -/
def texts : Event → List String
  | statement _ connection sql parameters => connection :: sql :: parameters.map Value.display
  | e => [e.subject, ""]

/-- Whether one list of texts comes before another or is the same: the first texts that differ
decide, and of two lists of which one goes on the shorter one comes first. -/
def textsLe : List String → List String → Bool
  | [], _ => true
  | _ :: _, [] => false
  | s :: rest, t :: others => decide (s < t) || (s == t && textsLe rest others)

/-- Puts the events of a sort into the order of their texts. -/
def ordered (es : List Event) : List Event :=
  es.mergeSort fun a b => textsLe a.texts b.texts

/-- Puts events that stand together and are of one sort into the order of their texts. -/
def arrange (es : List Event) : List Event :=
  (es.splitBy fun a b => a.sort == b.sort).flatMap ordered

end Event

end EntitySession.Rehearsal
