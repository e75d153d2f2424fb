import EntitySession.Sqlite.Cell
import EntitySession.Sqlite.Failure

/-!
# Engines

An `Engine` is what a connection drives: handles on databases, on each of which statements are run and
transactions are begun and ended.  A statement that is run outside of a transaction is one of its own.

It is given texts, and what they mean is its own affair.  Only the three that a connection sends of its
own accord, `BEGIN`, `COMMIT` and `ROLLBACK`, are calls of their own.  A text for a single statement is
prepared before it is run.  That looks for the tables and columns that the statement names, by what the
handle remembers of them, and so another handle may have changed them by the time that it runs.  Then it
runs with the tables as they are, but it has answered the names of its columns already.  A script is
executed at once, which is to do all of this with one statement after another (`runEach`).

`changes` and `lastRowId` tell about the statements that a handle has run.  Only insertions, updates
and deletions count for the former, and only rows that were added for the latter; every other statement
leaves them as they are.
-/

set_option autoImplicit false

namespace EntitySession.Sqlite

/-- A handle on a database, known by its number. -/
abbrev HandleId : Type := Nat

/-- Databases and the handles on them. -/
class Engine (ε : Type) where
  /-- Begins a transaction. -/
  begin : HandleId → ε → Except Report Unit × ε
  /-- Makes what was done in a transaction last. -/
  commit : HandleId → ε → Except Report Unit × ε
  /-- Takes back what was done in a transaction. -/
  rollback : HandleId → ε → Except Report Unit × ε
  /-- Gives a handle up, and with it what was done in an open transaction. -/
  close : HandleId → ε → Except Report Unit × ε
  /-- Prepares the first statement of a text, if it has one: the columns of its rows, with their names
  where they have names. -/
  prepare : HandleId → String → ε → Except Report (Option (List (Option String))) × ε
  /-- Whether a cell can be bound to a parameter of the statement that was prepared from a text; the
  first parameter is the one at 0. -/
  bind : HandleId → String → Nat → Cell → ε → Except Report Unit
  /-- Runs the statement that was prepared from a text to its end; the rows that it gives. -/
  run : HandleId → String → List Cell → ε → Except Report (List (List Cell)) × ε
  /-- Executes all statements of a text. -/
  exec : HandleId → String → ε → Except Report Unit × ε
  /-- How many rows the last statement that changes rows has changed. -/
  changes : HandleId → ε → Nat
  /-- The identifier of the row that was added last. -/
  lastRowId : HandleId → ε → Int

/-- Prepares and runs statements one after another, until one fails.  A text without a statement is passed
over. -/
def runEach {ε α β : Type} (prepare : String → ε → Except Report (Option α) × ε)
    (run : String → ε → Except Report β × ε) : List String → ε → Except Report Unit × ε
  | [], e => (.ok (), e)
  | sql :: rest, e =>
    match prepare sql e with
    | (.error report, e) => (.error report, e)
    | (.ok none, e) => runEach prepare run rest e
    | (.ok (some _), e) =>
      match run sql e with
      | (.error report, e) => (.error report, e)
      | (.ok _, e) => runEach prepare run rest e

end EntitySession.Sqlite
