import EntitySession.Session
import EntitySession.Transaction

/-!
# A program with its sessions

A `World` is everything there is at some moment: the site, all the sessions and transactions that were
ever made, and the association values that the program holds outside of any instance.

An association value is loaded here, since only here is it known whom its supplier asks: a session, if
that is still held by somebody, or the outside.  The value is found at a `Place`, and a successful load
puts its result there; a failed one leaves the value as it was, to be loaded again.
-/

set_option autoImplicit false

namespace EntitySession

/-- All there is at some moment. -/
structure World (δ : Type) where
  site : Site δ
  sessions : Array Session
  transactions : Array Transaction
  /-- The association values that are held outside of any instance. -/
  loose : List (String × Link)

/-- Where an association value is. -/
inductive Place where
  /-- In a field of an instance. -/
  | field (i : InstanceId) (name : String)
  /-- Outside of any instance. -/
  | loose (name : String)

namespace World

variable {δ α : Type}

/-- A world with nothing in it but what lies outside. -/
def start (outside : δ) : World δ :=
  { site := { heap := .empty, outside := outside, log := [] }
    sessions := #[]
    transactions := #[]
    loose := [] }

/-- An act on the site. -/
def onSite (x : Act (Site δ) α) : Act (World δ) α :=
  x.within World.site fun site w => { w with site := site }

/-- Looks at the instances. -/
def look (f : Heap → Except Error α) : Act (World δ) α := .reading fun w => f w.site.heap

/-- An act of the session with a number.  A session that there is not is one that is closed. -/
def onSession (n : Nat) (x : Act (Work δ) α) : Act (World δ) α :=
  .of fun w =>
    match w.sessions[n]? with
    | none => (.error .sessionClosed, w)
    | some s =>
      let (r, work) := x.perform ⟨w.site, s⟩
      (r, { w with site := work.site, sessions := w.sessions.setIfInBounds n work.session })

/-! ## Sessions and transactions -/

/-- Opens a session over a connection; its number is the answer. -/
def openSession (connection : ConnectionId) (showSql : Bool) : Act (World δ) Nat :=
  .of fun w =>
    let n := w.sessions.size
    (.ok n, { w with sessions := w.sessions.push (.start ⟨connection, showSql⟩ (.session n)) })

/-- Lets go of a session. -/
def dropSession (n : Nat) : Act (World δ) Unit :=
  .of fun w => (.ok (), { w with sessions := w.sessions.modify n fun s => { s with isHeld := false } })

/-- The present transaction of a session, or a new one if there is none or it has ended. -/
def transactionOf (n : Nat) : Act (World δ) TransactionId :=
  .of fun w =>
    match w.sessions[n]? with
    | none => (.error .sessionClosed, w)
    | some s =>
      let present := s.transaction.bind fun t =>
        (w.transactions[t]?).bind fun x => if x.status.isTerminal then none else some t
      match present with
      | some t => (.ok t, w)
      | none =>
        let t := w.transactions.size
        (.ok t,
          { w with
            transactions := w.transactions.push (.start s.gateway.connection n)
            sessions := w.sessions.setIfInBounds n { s with transaction := some t } })

/-- Whether the session of a transaction is open. -/
def isOpenFor (w : World δ) (t : Transaction) : Bool :=
  match w.sessions[t.session]? with
  | some s => s.isOpen
  | none => false

/-- An act on a transaction, which is told whether the session is open. -/
def onTransaction (t : TransactionId) (x : Bool → Act (Transaction × δ) α) : Act (World δ) α :=
  .of fun w =>
    match w.transactions[t]? with
    | none => (.error .sessionClosed, w)
    | some transaction =>
      let (r, transaction, outside) :=
        (x (w.isOpenFor transaction)).perform (transaction, w.site.outside)
      (r,
        { w with
          site := { w.site with outside := outside }
          transactions := w.transactions.setIfInBounds t transaction })

/-! ## Places -/

/-- The association value at a place. -/
def link? (w : World δ) : Place → Option Link
  | .field i name => w.site.heap.link? i name
  | .loose name => w.loose.lookup name

/-- Puts an association value at a place. -/
def setLink (place : Place) (l : Link) (w : World δ) : World δ :=
  match place with
  | .field i name => { w with site := { w.site with heap := w.site.heap.setLink i name l } }
  | .loose name =>
    { w with
      loose := if (w.loose.lookup name).isSome then Record.replace name l w.loose
        else w.loose ++ [(name, l)] }

/-- Puts an association value at a place. -/
def put (place : Place) (l : Link) : Act (World δ) Unit := .of fun w => (.ok (), w.setLink place l)

/-- The association value that must be at a place. -/
def linkAt (place : Place) : Act (World δ) Link :=
  .reading fun w =>
    match w.link? place with
    | some l => .ok l
    | none => .error (.unknownField "" (match place with | .field _ name | .loose name => name))

/-! ## Loading -/

variable [Database δ] [Callbacks δ]

/-- What a session answers to a request. -/
def askSession (S : Schema) : Request → Act (Work δ) (List InstanceId)
  | .byKey target id => do
    let found ← Session.find S target id
    pure found.toList
  | .byQuery query => Session.loadMany S query

/-- What the outside answers to a request. -/
def askOutside : Request → Act (Site δ) (List InstanceId)
  | .byKey target id => do
    let found ← Site.call (Callbacks.loadOne target id)
    pure found.toList
  | .byQuery query => Site.call (Callbacks.loadMany query)

/-- What a loader answers.  A session that nobody holds any more answers like a closed one. -/
def ask (S : Schema) (loader : Loader) (request : Request) : Act (World δ) (List InstanceId) :=
  match loader with
  | .outside => onSite (askOutside request)
  | .session n => do
    let held ← Act.reading fun (w : World δ) =>
      .ok (match w.sessions[n]? with | some s => s.isHeld | none => false)
    if held then onSession n (askSession S request) else throw Error.sessionClosed

/-- The failure of a load as the container of a field reports it.  That the present state does not
allow the load is passed on as it is. -/
def loadFault (owner field : String) (cause : Error) : Error :=
  if cause.isIllegalState then cause
  else (Fault.association owner (some field) .loadFailed).causedBy cause

/-- Accepts instances of the expected type only. -/
def checkLoaded (owner field expected : String) (items : List InstanceId) :
    Act (World δ) Unit :=
  look fun h =>
    match items.find? fun i => h.typeOf i != expected with
    | some i =>
      .error (Fault.association owner (some field) (.loadedOther (h.typeOf i) expected)).error
    | none => .ok ()

/-- The targets that a supplier gives to a container of a collection. -/
def supply (S : Schema) (held : String) : Supplier → Act (World δ) (List InstanceId)
  | .outside number => onSite (Site.call (Callbacks.supply number))
  | .request owner field loader request => do
    let items ← (ask S loader request).blaming (loadFault owner field)
    checkLoaded owner field held items
    pure items

/-- The target that a supplier gives to a reference: the first of those that it finds. -/
def supplyOne (S : Schema) (held : String) : Supplier → Act (World δ) (Option InstanceId)
  | .outside number => List.head? <$> onSite (Site.call (Callbacks.supply number))
  | .request owner field loader request => do
    let items ← (ask S loader request).blaming (loadFault owner field)
    let first := items.take 1
    checkLoaded owner field held first
    pure first.head?

/-- The target of the reference at a place, which is loaded if that is due. -/
def resolve (S : Schema) (place : Place) (held : String) (r : Reference) :
    Act (World δ) (Option InstanceId) :=
  match r.result? with
  | some result => pure result
  | none =>
    match r with
    | .unloaded _ _ supplier => do
      let result ← supplyOne S held supplier
      put place (.reference held (r.fill result))
      pure result
    | _ => pure none

/-- The elements of a collection, which are loaded if that is due. -/
def load (S : Schema) (held : String) (c : Collection) : Act (World δ) (List InstanceId) := do
  match ← look fun h => .ok (c.current? h.cells) with
  | some items => pure items
  | none =>
    match c.contents with
    | .own items => pure items
    | .shared cell supplier => do
      let items ← supply S held supplier
      let items := Collection.normalize c.distinct items
      onSite (Site.change fun h => .ok ((), h.fillCell cell items))
      pure items

/-- Changes the collection at a place, after it has been loaded if that is due. -/
def alter {β : Type} (S : Schema) (place : Place) (held : String) (c : Collection)
    (change : List InstanceId → List InstanceId × β) : Act (World δ) β := do
  let items ← load S held c
  let (items, answer) := change items
  put place (.collection held (c.withItems items))
  pure answer

end World

end EntitySession
