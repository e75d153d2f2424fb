import EntitySession.Factory
import EntitySession.Rehearsal.Labels
import EntitySession.Rehearsal.Scene

/-!
# Rehearsals

A `Stage` is a world in which everything goes by names: connections, sessions, transactions, factories
and instances.  Beside its sessions it has a desk, a gateway with a context and a queue that belong to
no session, so that these can be tried by themselves.

A connection to a SQLite database lasts as long as somebody holds it: a name, a session that is held,
a transaction with a name, a factory, or the desk.
-/

set_option autoImplicit false

namespace EntitySession.Rehearsal

/-- A world in which everything goes by names. -/
structure Stage where
  world : World Scene
  labels : Labels
  /-- The scripted connections. -/
  scripted : List (String × ConnectionId)
  /-- The connections to SQLite databases. -/
  sqlite : List (String × ConnectionId)
  sessions : List (String × Nat)
  transactions : List (String × TransactionId)
  factories : List (String × Factory Scene)
  /-- The gateway, the context and the queue that belong to no session. -/
  desk : Session
  /-- Whether the gateway of the desk is ready for use. -/
  deskReady : Bool
  registry : Registry
  /-- How many statements of the log were looked at. -/
  logRead : Nat
  /-- What was asked for by a name that means nothing, and that name. -/
  unknown? : Option (String × String)

namespace Stage

/-- A stage on which nothing has happened. -/
def empty : Stage :=
  { world := .start .empty
    labels := .empty
    scripted := []
    sqlite := []
    sessions := []
    transactions := []
    factories := []
    desk := .start ⟨0, false⟩ .outside
    deskReady := false
    registry := .empty
    logRead := 0
    unknown? := none }

variable {α : Type}

/-- Binds a name, which then means nothing else. -/
def assign {β : Type} (name : String) (x : β) (names : List (String × β)) : List (String × β) :=
  (name, x) :: names.filter fun e => e.1 != name

/-! ## Acts -/

/-- An act on the world. -/
def onWorld (x : Act (World Scene) α) : Act Stage α :=
  x.within Stage.world fun w s => { s with world := w }

/-- An act on the site. -/
def onSite (x : Act (Site Scene) α) : Act Stage α := onWorld (World.onSite x)

/-- Changes the scene. -/
def onScene (f : Scene → Except Error α × Scene) : Act Stage α := onSite (Site.call f)

/-- An act at the desk. -/
def atDesk (x : Act (Work Scene) α) : Act Stage α :=
  x.within (fun s => ⟨s.world.site, s.desk⟩) fun w s =>
    { s with world := { s.world with site := w.site }, desk := w.session }

/-- Looks at the stage. -/
def look (f : Stage → α) : Act Stage α := .reading fun s => .ok (f s)

/-- Changes the stage. -/
def change (f : Stage → Stage) : Act Stage Unit := .of fun s => (.ok (), f s)

/-- What a name means among the names of one kind.  A name that means nothing is no failure of the
program, so the stage takes a note of it. -/
def named {β : Type} (what : String) (names : Stage → List (String × β)) (name : String) :
    Act Stage β :=
  .of fun s =>
    match (names s).lookup name with
    | some x => (.ok x, s)
    | none =>
      (.error (Fault.illegalState (.reported ("no " ++ what ++ " is called " ++ name))).error,
        { s with unknown? := some (what, name) })

/-- The instance with a name. -/
def instanceNamed (name : String) : Act Stage InstanceId :=
  named "entity" (fun s => s.labels.names) name

/-- The session with a name. -/
def sessionNamed (name : String) : Act Stage Nat := named "session" Stage.sessions name

/-- The transaction with a name. -/
def transactionNamed (name : String) : Act Stage TransactionId :=
  named "transaction" Stage.transactions name

/-- The factory with a name. -/
def factoryNamed (name : String) : Act Stage (Factory Scene) := named "factory" Stage.factories name

/-- The stage without the note of a name that means nothing, and that note. -/
def takeUnknown (s : Stage) : Option (String × String) × Stage :=
  (s.unknown?, { s with unknown? := none })

/-- Gives a name to an instance. -/
def giveName (name : String) (i : InstanceId) : Act Stage Unit :=
  change fun s => { s with labels := s.labels.give name i }

/-- The label of an instance. -/
def labelOf (i : InstanceId) : Act Stage String :=
  .of fun s =>
    let (label, labels) := s.labels.label i
    (.ok label, { s with labels := labels })

/-! ## Connections -/

/-- The scripted connection with a name, which is made when it is first used. -/
def scriptedConnection (name : String) : Act Stage ConnectionId := do
  match ← look fun s => s.scripted.lookup name with
  | some i => pure i
  | none => do
    let i ← onScene fun s =>
      let (i, s) := s.addConnection (.scripted (.start name))
      (.ok i, s)
    change fun s => { s with scripted := assign name i s.scripted }
    pure i

/-- The connection with a name. -/
def connectionNamed (name : String) : Act Stage ConnectionId := do
  match ← look fun s => s.sqlite.lookup name with
  | some i => pure i
  | none => scriptedConnection name

/-- Changes a scripted connection. -/
def onScripted (name : String) (f : ScriptedConnection → ScriptedConnection) :
    Act Stage ScriptedConnection := do
  let i ← scriptedConnection name
  onScene fun s =>
    match s.connections[i]? with
    | some (.scripted c) => (.ok (f c), s.setConnection i (.scripted (f c)))
    | _ => (.error Scene.unconnected, s)

/-- A call of the SQLite connection with a name. -/
def onSqlite (name : String) (x : Act (Sqlite.Connection × Sqlite.Store) α) : Act Stage α := do
  let i ← named "connection" Stage.sqlite name
  onScene (Scene.talk i (fun _ s => (.error Scene.unconnected, s)) x)

/-- Opens a SQLite connection under a name. -/
def openSqlite (name : String) (o : Sqlite.OpenOptions) : Act Stage Unit := do
  let i ← onScene (Scene.openSqlite o)
  change fun s => { s with sqlite := assign name i s.sqlite }

/-- Takes the name of a SQLite connection away. -/
def dropSqlite (name : String) : Act Stage Unit :=
  change fun s => { s with sqlite := s.sqlite.filter fun e => e.1 != name }

/-! ## Sessions, transactions and factories -/

/-- Lets go of the session with a name, if there is one. -/
def dropSession (name : String) : Act Stage Unit := do
  match ← look fun s => s.sessions.lookup name with
  | some n => do
    onWorld (World.dropSession n)
    change fun s => { s with sessions := s.sessions.filter fun e => e.1 != name }
  | none => pure ()

/-- Gives a name to a session; the session that had it is let go. -/
def keepSession (name : String) (n : Nat) : Act Stage Unit := do
  dropSession name
  change fun s => { s with sessions := assign name n s.sessions }

/-- Opens a session under a name. -/
def openSession (name connection : String) (showSql : Bool) : Act Stage Unit := do
  let c ← connectionNamed connection
  let n ← onWorld (World.openSession c showSql)
  keepSession name n

/-- An act of the session with a name. -/
def onSession (name : String) (x : Act (Work Scene) α) : Act Stage α := do
  let n ← sessionNamed name
  onWorld (World.onSession n x)

/-- Looks at the session with a name. -/
def lookAtSession (name : String) (f : Session → α) : Act Stage α :=
  onSession name (Work.look fun s _ => .ok (f s))

/-- Gives a name to the transaction of a session. -/
def takeTransaction (session name : String) : Act Stage Transaction := do
  let n ← sessionNamed session
  let t ← onWorld (World.transactionOf n)
  change fun s => { s with transactions := assign name t s.transactions }
  onWorld (World.onTransaction t fun _ => .reading fun (x, _) => .ok x)

/-- An act on the transaction with a name. -/
def onTransaction (name : String) (x : Bool → Act (Transaction × Scene) α) : Act Stage α := do
  let t ← transactionNamed name
  onWorld (World.onTransaction t x)

/-- Makes a factory under a name. -/
def keepFactory (name : String) (f : Factory Scene) : Act Stage Unit :=
  change fun s => { s with factories := assign name f s.factories }

/-- Registers a type with a factory. -/
def registerWith (S : Schema) (factory entity : String) : Act Stage Metadata := do
  let f ← factoryNamed factory
  let (registry, m) ← Act.lift (f.registry.register S.mappings entity)
  keepFactory factory { f with registry := registry }
  pure m

/-- Opens a session from a factory under a name. -/
def openFrom (factory name : String) : Act Stage Unit := do
  let f ← factoryNamed factory
  let n ← onWorld f.openSession
  keepSession name n

/-- Registers a type. -/
def register (S : Schema) (entity : String) : Act Stage Metadata :=
  .of fun s =>
    match s.registry.register S.mappings entity with
    | .ok (registry, m) => (.ok m, { s with registry := registry })
    | .error e => (.error e, s)

/-! ## The desk -/

/-- Gives the desk a gateway over a connection. -/
def equipDesk (connection : String) (showSql : Bool) : Act Stage Gateway := do
  let c ← connectionNamed connection
  change fun s => { s with desk := { s.desk with gateway := ⟨c, showSql⟩ }, deskReady := true }
  pure ⟨c, showSql⟩

/-- The gateway of the desk, which is one over the connection `c` unless another was made. -/
def gateway : Act Stage Gateway := do
  if ← look Stage.deskReady then look fun s => s.desk.gateway else equipDesk "c" false

/-- Takes a pending action out of the queue of the desk. -/
def popAction : Act Stage (Option Action) :=
  .of fun s =>
    match s.desk.queue.pop? s.desk.choices with
    | some (a, queue, choices) =>
      (.ok (some a), { s with desk := { s.desk with queue := queue, choices := choices } })
    | none => (.ok none, s)

/-- Runs the actions that wait at the desk. -/
def drainQueue (S : Schema) : Act Stage Nat :=
  atDesk do
    let q ← Session.takeQueue
    Session.drain S q

/-! ## After a step -/

/-- The connections that an action holds. -/
def heldByAction : Action → List ConnectionId
  | .insert g _ _ | .update g _ _ | .delete g _ => [g.connection]
  | .outside _ _ _ => []

/-- The connections that a provider holds. -/
def heldByProvider : Provider Scene → List ConnectionId
  | .shared c => [c]
  | .opening _ => []

/-- The connections that somebody holds. -/
def heldConnections (s : Stage) : List ConnectionId :=
  s.sqlite.map Prod.snd
    ++ (s.world.sessions.toList.filter Session.isHeld).map (fun x => x.gateway.connection)
    ++ (s.transactions.filterMap fun e => (s.world.transactions[e.2]?).map Transaction.connection)
    ++ s.factories.flatMap (fun e => heldByProvider e.2.provider)
    ++ (if s.deskReady then [s.desk.gateway.connection] else [])
    ++ s.desk.queue.pending.flatMap heldByAction

/-- Closes the connections that nobody holds. -/
def settle (s : Stage) : Stage :=
  let held := s.heldConnections
  let site := s.world.site
  { s with
    world :=
      { s.world with site := { site with outside := site.outside.release fun i => held.contains i } } }

/-- The calls that came in since the journal was last taken. -/
def takeJournal (s : Stage) : List Event × Stage :=
  let site := s.world.site
  (site.outside.journal.reverse,
    { s with
      world := { s.world with site := { site with outside := { site.outside with journal := [] } } } })

/-- The statements that were logged since the log was last taken. -/
def takeLog : Act Stage (List LogLine) :=
  .of fun s => (.ok (s.world.site.log.drop s.logRead), { s with logRead := s.world.site.log.length })

end Stage

end EntitySession.Rehearsal
