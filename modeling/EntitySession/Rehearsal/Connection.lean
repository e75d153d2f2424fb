import EntitySession.Error
import EntitySession.Row

/-!
# Scripted connections

A connection without a database behind it: it answers statements with what was put down for it
beforehand.  Result sets, row counts and generated keys wait in three queues, and a statement takes
what it needs; an empty queue gives no rows, one row changed, or no key.

A connection can be told to fail: on statements that contain a text, or on one of the calls that
change its state.  A call that fails changes nothing.
-/

set_option autoImplicit false

namespace EntitySession.Rehearsal

/-- The calls that a connection can be told to fail on. -/
inductive Call where
  | commit
  | rollback
  | close
  | autoCommitOff
  | autoCommitOn
  deriving DecidableEq

namespace Call

/-- How a connection fails on a call. -/
def failure : Call → Error
  | commit => (Fault.query .busy (some "COMMIT") "database is locked").error
  | rollback => (Fault.query .database (some "ROLLBACK") "rollback failed").error
  | close => (Fault.query .database (some "CLOSE") "close failed").error
  | autoCommitOff => (Fault.query .busy (some "BEGIN") "database is locked").error
  | autoCommitOn => (Fault.query .busy (some "COMMIT") "database is locked").error

/-- The call that turns automatic commit on or off. -/
def ofAutoCommit (on : Bool) : Call := if on then autoCommitOn else autoCommitOff

end Call

/-- A connection that plays back what was put down for it. -/
structure ScriptedConnection where
  name : String
  autoCommit : Bool
  isClosed : Bool
  results : List (List Row)
  affected : List Nat
  keys : List Value
  /-- Statements that contain this text fail. -/
  failOn : Option String
  /-- What such a statement fails with, if not with the usual error. -/
  failWith : Option Error
  /-- The calls that fail. -/
  failing : List Call

namespace ScriptedConnection

/-- A connection for which nothing was put down. -/
def start (name : String) : ScriptedConnection :=
  { name
    autoCommit := true
    isClosed := false
    results := []
    affected := []
    keys := []
    failOn := none
    failWith := none
    failing := [] }

/-- The connection with empty queues. -/
def clear (c : ScriptedConnection) : ScriptedConnection :=
  { c with results := [], affected := [], keys := [] }

/-- Tells the connection whether to fail on a call. -/
def setFailing (c : ScriptedConnection) (call : Call) (on : Bool) : ScriptedConnection :=
  { c with failing := if on then call :: c.failing else c.failing.filter fun x => x != call }

/-- Whether a text contains another one. -/
def contains (part : List Char) : List Char → Bool
  | [] => part.isEmpty
  | c :: rest => part.isPrefixOf (c :: rest) || contains part rest

/-- What keeps a statement from being run. -/
def refusal? (c : ScriptedConnection) (sql : String) : Option Error :=
  c.failOn.bind fun part =>
    if contains part.toList sql.toList then
      some (c.failWith.getD (Fault.query .database (some sql) "scripted failure").error)
    else none

/-- What keeps a statement from even being received. -/
def closedError (sql : String) : Error := (Fault.query .closed (some sql) "connection is closed").error

/-- The next result set. -/
def nextRows (c : ScriptedConnection) : List Row × ScriptedConnection :=
  (c.results.headD [], { c with results := c.results.tail })

/-- The next row count. -/
def nextCount (c : ScriptedConnection) : Nat × ScriptedConnection :=
  (c.affected.headD 1, { c with affected := c.affected.tail })

/-- The next generated key, if there is one. -/
def nextKey (c : ScriptedConnection) : List Value × ScriptedConnection :=
  (c.keys.take 1, { c with keys := c.keys.tail })

/-- Makes a call that changes the state of the connection, unless it fails. -/
def perform (c : ScriptedConnection) (call : Call) (effect : ScriptedConnection → ScriptedConnection) :
    Except Error Unit × ScriptedConnection :=
  if c.failing.contains call then (.error call.failure, c) else (.ok (), effect c)

end ScriptedConnection

end EntitySession.Rehearsal
