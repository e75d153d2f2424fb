import EntitySession.Action
import EntitySession.Context

/-!
# Sessions

A session is a unit of work over one connection.  It tracks the instances that it has loaded or been
given, so that an identifier always leads to the same instance; it finds out by itself which of them
have changed; and it defers its writes until a flush, when inserts run first and deletes last.

What a session does is an act on a `Work`: the session itself together with the site that it shares
with others.  `Session.find` and `Session.loadMany` are also what the associations of its instances
ask on first access.

Closing a session looks for changes as a flush does, but then discards what waits and closes the
connection, so nothing that was not flushed is ever written.
-/

set_option autoImplicit false

namespace EntitySession

/-- A transaction, known by its number. -/
abbrev TransactionId : Type := Nat

/-- A unit of work over one connection. -/
structure Session where
  gateway : Gateway
  /-- Whom the instances of this session ask for their associations. -/
  loader : Loader
  context : Context
  queue : Queue
  choices : Choices
  /-- Whether the session has not been closed. -/
  isOpen : Bool
  /-- Whether somebody still holds the session. -/
  isHeld : Bool
  /-- The transaction that was handed out last. -/
  transaction : Option TransactionId

namespace Session

/-- A new session. -/
def start (gateway : Gateway) (loader : Loader) : Session :=
  { gateway, loader
    context := .empty
    queue := .empty
    choices := .first
    isOpen := true
    isHeld := true
    transaction := none }

/-- The session as it shows itself. -/
def describe (s : Session) : String :=
  "Session \x7b open: " ++ (if s.isOpen then "true" else "false") ++ ", tracked: "
    ++ toString s.context.size ++ ", pending_actions: " ++ toString s.queue.size ++ " \x7d"

end Session

/-- A session and the site that it works on. -/
structure Work (δ : Type) where
  site : Site δ
  session : Session

namespace Work

variable {δ α : Type}

/-- An act on the site. -/
def onSite (x : Act (Site δ) α) : Act (Work δ) α :=
  x.within Work.site fun site w => { w with site := site }

/-- Looks at the session and at the instances. -/
def look (f : Session → Heap → Except Error α) : Act (Work δ) α :=
  .reading fun w => f w.session w.site.heap

/-- Changes the session. -/
def modify (f : Session → Session) : Act (Work δ) Unit :=
  .of fun w => (.ok (), { w with session := f w.session })

/-- Changes the context; a failure changes nothing. -/
def modifyContext (f : Heap → Context → Except Error Context) : Act (Work δ) Unit :=
  .of fun w =>
    match f w.site.heap w.session.context with
    | .ok c => (.ok (), { w with session := { w.session with context := c } })
    | .error e => (.error e, w)

end Work

namespace Session

variable {δ : Type} [Database δ]

/-- Goes on only while the session is open. -/
def ensureOpen : Act (Work δ) Unit :=
  Work.look fun s _ => if s.isOpen then .ok () else .error .sessionClosed

/-- Adds an action to the queue. -/
def enqueue (a : Session → Action) : Act (Work δ) Unit :=
  Work.modify fun s => { s with queue := s.queue.push (a s) }

/-! ## Loading -/

/-- Tracks an instance that was just loaded under a key, unless one is tracked already; which one it
is now is the answer. -/
def adopt (S : Schema) (k : EntityKey) (loaded : InstanceId) : Act (Work δ) InstanceId := do
  match ← Work.look fun s _ => .ok (s.context.get? k) with
  | some tracked => pure tracked
  | none =>
    Work.modifyContext fun h c => c.put S h loaded
    Work.look fun s _ => .ok ((s.context.get? k).getD loaded)

/-- The instance of a type with an identifier: the tracked one, or else the one in the database. -/
def find (S : Schema) (entity : String) (id : Value) : Act (Work δ) (Option InstanceId) := do
  ensureOpen
  let k ← Act.lift (EntityKey.of S.mappings entity id)
  match ← Work.look fun s _ => .ok (s.context.get? k) with
  | some tracked => pure (some tracked)
  | none =>
    let s ← Work.look fun s _ => .ok s
    match ← Work.onSite (s.gateway.findById S s.loader entity k.id) with
    | some loaded => some <$> adopt S k loaded
    | none => pure none

/-- Tracks the instances that were just loaded, each under its own key. -/
def adoptAll (S : Schema) : List InstanceId → Act (Work δ) (List InstanceId)
  | [] => pure []
  | i :: rest => do
    let k ← Work.look fun _ h => h.key S i
    let i ← adopt S k i
    let is ← adoptAll S rest
    pure (i :: is)

/-- The targets of an association. -/
def loadMany (S : Schema) (q : AssociationQuery) : Act (Work δ) (List InstanceId) := do
  ensureOpen
  let s ← Work.look fun s _ => .ok s
  let loaded ← Work.onSite (s.gateway.findAssociated S s.loader q)
  adoptAll S loaded

/-- The instance of a type with an identifier, which must be of that type. -/
def findById (S : Schema) (entity : String) (id : Value) : Act (Work δ) (Option InstanceId) := do
  match ← find S entity id with
  | some i =>
    if (← Work.look fun _ h => .ok (h.typeOf i)) = entity then pure (some i)
    else throw (Fault.entity entity none none .unexpectedType).error
  | none => pure none

/-! ## Writing -/

/-- Makes an instance persistent.  Without an identifier it is inserted at once, since the identifier
comes from the database; otherwise the insert waits.  Either way the instance is tracked from now
on. -/
def persist (S : Schema) (i : InstanceId) : Act (Work δ) Unit := do
  ensureOpen
  let id ← Work.look fun _ h => h.id S i
  let s ← Work.look fun s _ => .ok s
  if id.isNull then
    Work.onSite (s.gateway.save S i)
    Work.modifyContext fun h c => c.put S h i
  else
    let entity ← Work.look fun _ h => .ok (h.typeOf i)
    if s.context.contains ⟨entity, id⟩ then pure ()
    else
      enqueue fun s => .insert s.gateway entity i
      Work.modifyContext fun h c => c.put S h i

/-- Lets the deletion of an instance wait and stops tracking it. -/
def delete (S : Schema) (i : InstanceId) : Act (Work δ) Unit := do
  ensureOpen
  let k ← Work.look fun _ h => h.key S i
  if k.id.isNull then
    throw (Fault.entity k.entity none none .deleteWithoutIdentifier).error
  else
    enqueue fun s => .delete s.gateway k
    Work.modify fun s => { s with context := s.context.remove k }

/-! ## Asking -/

/-- Whether the key of an instance is tracked. -/
def contains (S : Schema) (i : InstanceId) : Act (Work δ) Bool :=
  Work.look fun s h => s.context.containsInstance S h i

/-- Whether the instance tracked under the key of a given one has changed. -/
def isDirty (S : Schema) (i : InstanceId) : Act (Work δ) Bool :=
  Work.look fun s h => do
    let k ← h.key S i
    s.context.isDirty S h k

/-! ## Flushing -/

/-- The tracked instances that have changed, in an order that is left open. -/
def dirtyEntities (S : Schema) : Act (Work δ) (List (EntityKey × InstanceId)) := do
  let s ← Work.look fun s _ => .ok s
  let (tracked, choices) := s.choices.shuffle s.context.instances
  Work.modify fun s => { s with choices := choices }
  Work.look fun s h => s.context.dirtyAmong S h tracked

/-- The columns that an update of an instance writes: the simple ones, then the references. -/
def updateColumns (S : Schema) (h : Heap) (i : InstanceId) : Except Error (List ColumnValue) := do
  let columns ← h.columnValues S i
  let relations ← h.relationValues S i
  .ok (columns ++ relations.map RelationValue.toColumnValue)

/-- Adds an update of each of the given instances to the queue. -/
def enqueueUpdates (S : Schema) : List (EntityKey × InstanceId) → Act (Work δ) Unit
  | [] => pure ()
  | (k, i) :: rest => do
    let columns ← Work.look fun _ h => updateColumns S h i
    enqueue fun s => .update s.gateway k columns
    enqueueUpdates S rest

/-- Adds an update of every instance that has changed to the queue; how many is the answer. -/
def scheduleUpdates (S : Schema) : Act (Work δ) Nat := do
  let dirty ← dirtyEntities S
  enqueueUpdates S dirty
  pure dirty.length

end Session

namespace Action

variable {δ : Type} [Database δ] [Callbacks δ]

/-- Runs an action. -/
def run (S : Schema) : Action → Act (Work δ) Unit
  | insert g _ i => Work.onSite (g.save S i)
  | update g k columns => do
    let _ ← Work.onSite (g.update S k columns)
    Work.modifyContext fun h c => c.refresh S h k
  | delete g k => do
    let _ ← Work.onSite (g.deleteByKey S k)
  | outside number _ _ => Work.onSite (Site.call (Callbacks.performAction number))

end Action

namespace Session

variable {δ : Type} [Database δ] [Callbacks δ]

/-- Runs what waits in a queue, which is no longer that of the session. -/
def drain (S : Schema) (q : Queue) : Act (Work δ) Nat :=
  .of fun w =>
    let ((r, w), _, choices) := q.drain (Action.run S) w.session.choices w
    (r, { w with session := { w.session with choices := choices } })

/-- Takes the queue of the session away from it. -/
def takeQueue : Act (Work δ) Queue :=
  .of fun w => (.ok w.session.queue, { w with session := { w.session with queue := .empty } })

/-- Writes everything that waits, and the instances that have changed. -/
def flush (S : Schema) : Act (Work δ) Unit := do
  ensureOpen
  let _ ← scheduleUpdates S
  let q ← takeQueue
  let _ ← drain S q

/-- Closes the session and its connection.  What waits is discarded.  A failure to find out what has
changed is reported before a failure to close the connection. -/
def close (S : Schema) : Act (Work δ) Unit := do
  let s ← Work.look fun s _ => .ok s
  if !s.isOpen then pure ()
  else
    Work.modify fun s => { s with isOpen := false }
    let scheduled ← (scheduleUpdates S).outcome
    Work.modify fun s => { s with queue := .empty, context := .empty }
    let closed ← (Work.onSite (Site.call (Database.close s.gateway.connection))).outcome
    Act.lift do
      let _ ← scheduled
      closed.mapError (Fault.failed .closeConnection).causedBy

end Session

end EntitySession
