import EntitySession.Rehearsal.Connection
import EntitySession.Rehearsal.Event
import EntitySession.Sqlite.Opening

/-!
# The surroundings of a rehearsal

A `Scene` is everything outside of the sessions that are tried out: connections, which are scripted or
lead to SQLite databases, a loader and suppliers that give what was put down for them, actions, and the
journal of the calls that came in.

A scripted answer is a `Reply`: instances, or an error.  When replies have run out, nothing is found.
-/

set_option autoImplicit false

namespace EntitySession.Rehearsal

/-- What was put down as the answer to a call. -/
abbrev Reply : Type := Except Error (List InstanceId)

/-- A connection of a rehearsal. -/
inductive Endpoint where
  | scripted (c : ScriptedConnection)
  | sqlite (c : Sqlite.Connection)

/-- A supplier that gives what was put down for it. -/
structure ScriptedSupplier where
  name : String
  replies : List Reply

/-- An action that does nothing, or fails. -/
structure ScriptedAction where
  name : String
  priority : UInt8
  failure : Option Error

/-- Everything outside of the sessions. -/
structure Scene where
  /-- The calls that came in, the latest first. -/
  journal : List Event
  connections : Array Endpoint
  store : Sqlite.Store
  /-- What the loader answers when it is asked for one instance. -/
  ones : List Reply
  /-- What the loader answers when it is asked for many. -/
  manies : List Reply
  suppliers : Array ScriptedSupplier
  actions : Array ScriptedAction

namespace Scene

/-- A scene in which nothing was put down. -/
def empty : Scene := ⟨[], #[], .empty, [], [], #[], #[]⟩

/-- Records a call. -/
def record (s : Scene) (e : Event) : Scene := { s with journal := e :: s.journal }

/-- Puts a connection back. -/
def setConnection (s : Scene) (i : ConnectionId) (e : Endpoint) : Scene :=
  { s with connections := s.connections.setIfInBounds i e }

/-- Adds a connection. -/
def addConnection (s : Scene) (e : Endpoint) : ConnectionId × Scene :=
  (s.connections.size, { s with connections := s.connections.push e })

/-- The error of a call to a connection that there is not. -/
def unconnected : Error := (Fault.query .closed none "connection is closed").error

/-- Sends a statement to a scripted connection, which records it and answers or fails. -/
def send {α : Type} (s : Scene) (i : ConnectionId) (c : ScriptedConnection) (verb : Verb) (sql : String)
    (parameters : List Value) (answer : ScriptedConnection → α × ScriptedConnection) :
    Except Error α × Scene :=
  if c.isClosed then (.error (ScriptedConnection.closedError sql), s)
  else
    let s := s.record (.statement verb c.name sql parameters)
    match c.refusal? sql with
    | some e => (.error e, s)
    | none =>
      let (a, c) := answer c
      (.ok a, s.setConnection i (.scripted c))

/-- Makes a call of a scripted connection that changes its state. -/
def change (s : Scene) (i : ConnectionId) (c : ScriptedConnection) (event : Event) (call : Call)
    (effect : ScriptedConnection → ScriptedConnection) : Except Error Unit × Scene :=
  let (r, c) := c.perform call effect
  (r, (s.record event).setConnection i (.scripted c))

/-- Makes a call of a connection to a SQLite database. -/
def drive {α : Type} (s : Scene) (i : ConnectionId) (c : Sqlite.Connection)
    (call : Act (Sqlite.Connection × Sqlite.Store) α) : Except Error α × Scene :=
  let (r, c, store) := call.perform (c, s.store)
  (r, { s with store := store }.setConnection i (.sqlite c))

/-- Makes a call of either kind of connection. -/
def talk {α : Type} (i : ConnectionId)
    (scripted : ScriptedConnection → Scene → Except Error α × Scene)
    (sqlite : Act (Sqlite.Connection × Sqlite.Store) α) (s : Scene) : Except Error α × Scene :=
  match s.connections[i]? with
  | some (.scripted c) => scripted c s
  | some (.sqlite c) => s.drive i c sqlite
  | none => (.error unconnected, s)

instance : Database Scene where
  query i sql parameters :=
    talk i (fun c s => s.send i c .query sql parameters ScriptedConnection.nextRows)
      (Sqlite.Connection.query sql parameters)
  execute i sql parameters :=
    talk i (fun c s => s.send i c .execute sql parameters ScriptedConnection.nextCount)
      (Sqlite.Connection.execute sql parameters)
  insert i sql parameters :=
    talk i
      (fun c s => s.send i c .insert sql parameters fun c =>
        let (rows, c) := c.nextCount
        let (keys, c) := c.nextKey
        (⟨rows, keys⟩, c))
      (Sqlite.Connection.insert sql parameters)
  setAutoCommit i on :=
    talk i
      (fun c s => s.change i c (.autoCommit c.name on) (.ofAutoCommit on) fun c =>
        { c with autoCommit := on })
      (Sqlite.Connection.setAutoCommit on)
  commit i := talk i (fun c s => s.change i c (.commit c.name) .commit id) Sqlite.Connection.commit
  rollback i :=
    talk i (fun c s => s.change i c (.rollback c.name) .rollback id) Sqlite.Connection.rollback
  close i :=
    talk i (fun c s => s.change i c (.close c.name) .close fun c => { c with isClosed := true })
      Sqlite.Connection.close

instance : Callbacks Scene where
  loadOne target id s :=
    ((s.ones.headD (.ok [])).map List.head?,
      { s.record (.loadOne target id) with ones := s.ones.tail })
  loadMany query s :=
    (s.manies.headD (.ok []), { s.record (.loadMany query) with manies := s.manies.tail })
  supply number s :=
    match s.suppliers[number]? with
    | none => (.ok [], s)
    | some x =>
      (x.replies.headD (.ok []),
        { s.record (.supplier x.name) with
          suppliers := s.suppliers.setIfInBounds number { x with replies := x.replies.tail } })
  performAction number s :=
    match s.actions[number]? with
    | none => (.ok (), s)
    | some x =>
      (match x.failure with | some e => .error e | none => .ok (), s.record (.action x.name x.priority))

/-! ## SQLite connections -/

/-- Opens a connection to a SQLite database. -/
def openSqlite (o : Sqlite.OpenOptions) (s : Scene) : Except Error ConnectionId × Scene :=
  match s.store.connect o with
  | .error e => (.error e, s)
  | .ok (c, store) =>
    let (i, s) := s.addConnection (.sqlite c)
    (.ok i, { s with store := store })

/-- Closes a connection to a SQLite database that nobody holds any more. -/
def releaseOne (s : Scene) (i : ConnectionId) : Scene :=
  match s.connections[i]? with
  | some (.sqlite c) => if c.isClosed then s else (s.drive i c Sqlite.Connection.close).2
  | _ => s

/-- Closes the connections to SQLite databases that nobody holds any more. -/
def release (held : ConnectionId → Bool) (s : Scene) : Scene :=
  ((List.range s.connections.size).filter fun i => !held i).foldl releaseOne s

end Scene

end EntitySession.Rehearsal
