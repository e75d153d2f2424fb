import EntitySession.Surroundings

/-!
# Transactions

A transaction is a handle on the automatic commit of a connection: beginning turns it off, and
committing or rolling back finishes what was done and turns it on again.

* A transaction that has not begun, or has ended, may begin; a failed beginning leaves it as it was.
* An active one may be committed, which ends in `committed` or `failedCommit`.
* An active one, or one whose commit has failed, may be rolled back, which ends in `rolledBack` or
  `failedRollback`; automatic commit is turned on again even if the rollback has failed.

Beginning and committing need an open session; rolling back does not.
-/

set_option autoImplicit false

namespace EntitySession

/-- Where a transaction stands. -/
inductive TransactionStatus where
  | notActive
  | active
  | committed
  | failedCommit
  | rolledBack
  | failedRollback
  deriving DecidableEq

namespace TransactionStatus

/-- Whether a session hands out another transaction after this one. -/
def isTerminal : TransactionStatus → Bool
  | committed | rolledBack => true
  | _ => false

/-- The status in messages. -/
def display : TransactionStatus → String
  | notActive => "NOT_ACTIVE"
  | active => "ACTIVE"
  | committed => "COMMITTED"
  | failedCommit => "FAILED_COMMIT"
  | rolledBack => "ROLLED_BACK"
  | failedRollback => "FAILED_ROLLBACK"

/-- The status as a transaction shows itself. -/
def name : TransactionStatus → String
  | notActive => "NotActive"
  | active => "Active"
  | committed => "Committed"
  | failedCommit => "FailedCommit"
  | rolledBack => "RolledBack"
  | failedRollback => "FailedRollback"

end TransactionStatus

/-- A handle on the automatic commit of a connection. -/
structure Transaction where
  status : TransactionStatus
  connection : ConnectionId
  /-- The session that handed the transaction out. -/
  session : Nat
  deriving DecidableEq

namespace Transaction

/-- A new transaction. -/
def start (connection : ConnectionId) (session : Nat) : Transaction := ⟨.notActive, connection, session⟩

/-- Whether the transaction is active. -/
def isActive (t : Transaction) : Bool := t.status == .active

/-- The transaction as it shows itself. -/
def describe (t : Transaction) : String :=
  "Transaction \x7b status: " ++ t.status.name ++ " \x7d"

variable {δ : Type}

/-- Refuses a call. -/
def refuse {α : Type} (why : StateFault) : Act (Transaction × δ) α :=
  throw (Fault.illegalState why).error

/-- A call on the connection of the transaction. -/
def call {α : Type} (f : ConnectionId → δ → Except Error α × δ) : Act (Transaction × δ) α :=
  .of fun (t, outside) =>
    let (r, outside) := f t.connection outside
    (r, (t, outside))

/-- Changes the status. -/
def become (status : TransactionStatus) : Act (Transaction × δ) Unit :=
  .of fun (t, outside) => (.ok (), ({ t with status := status }, outside))

/-- The present status. -/
def current : Act (Transaction × δ) TransactionStatus := .reading fun (t, _) => .ok t.status

/-- Ends a transaction according to how its last calls have ended. -/
def finish (result : Except Error Unit) (done failed : TransactionStatus) (what : Undertaking) :
    Act (Transaction × δ) Unit :=
  match result with
  | .ok () => become done
  | .error e => do
    become failed
    throw ((Fault.failed what).causedBy e)

variable [Database δ]

/-- Begins the transaction. -/
def begin (sessionOpen : Bool) : Act (Transaction × δ) Unit := do
  if !sessionOpen then throw Error.sessionClosed
  if (← current) = .active then refuse .alreadyActive
  match ← (call fun c => Database.setAutoCommit c false).outcome with
  | .ok () => become .active
  | .error e => do
    let _ ← (call fun c => Database.setAutoCommit c true).outcome
    throw ((Fault.failed .beginTransaction).causedBy e)

/-- Commits the transaction. -/
def commit (sessionOpen : Bool) : Act (Transaction × δ) Unit := do
  if !sessionOpen then throw Error.sessionClosed
  let status ← current
  if status ≠ .active then refuse (.cannotCommit status.display)
  let result ← Act.outcome do
    call Database.commit
    call fun c => Database.setAutoCommit c true
  finish result .committed .failedCommit .commitTransaction

/-- Rolls the transaction back. -/
def rollback : Act (Transaction × δ) Unit := do
  let status ← current
  if status ≠ .active ∧ status ≠ .failedCommit then refuse (.cannotRollBack status.display)
  let rolledBack ← (call Database.rollback).outcome
  let restored ← (call fun c => Database.setAutoCommit c true).outcome
  finish (do rolledBack; restored) .rolledBack .failedRollback .rollBackTransaction

end Transaction

end EntitySession
