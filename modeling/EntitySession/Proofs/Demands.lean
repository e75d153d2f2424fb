import EntitySession.Sqlite.Engine
import Mathlib.Data.List.Basic

/-!
# What an engine is asked

An engine is given texts, and a connection does not look into them.  So what has become of the
statements in them is to be told from what the engine was asked, and what it has answered.

* `Watched` is an engine that is watched: each demand that reaches it is written down, with the state
  that it has found.
* A text for a single statement is one statement.  A script is several, and an engine promises that to
  execute it is to prepare and to run them one after another until one fails (`Scripting`).  Only then
  can they be counted one by one.
* `Scripting.runs` reads off a demand which statements it has run, each with the state that it has
  found, and `Scripting.succeeded` which of them have succeeded.

That the statements of a script stop at the first one that fails is a matter of recursion.  The ways of
a statement are told apart once (`Executes`), and what a script leaves behind follows from what one
statement leaves behind (`Executes.foldl`).
-/

set_option autoImplicit false

namespace EntitySession.Sqlite

/-- A statement that was run: the text that it is the first statement of, and its parameters. -/
structure Performed where
  sql : String
  cells : List Cell
  deriving DecidableEq

/-! ## Scripts -/

namespace Engine

variable {ε : Type} [Engine ε]

/-- Prepares and runs statements of a handle one after another, until one fails. -/
def executeEach (i : HandleId) : List String → ε → Except Report Unit × ε :=
  runEach (Engine.prepare i) fun sql => Engine.run i sql []

/-- The statements that are run in this way, each with the state that it finds.  The last of them may be
one that fails. -/
def runsOfEach (i : HandleId) : List String → ε → List (Performed × ε)
  | [], _ => []
  | sql :: rest, e =>
    match Engine.prepare i sql e with
    | (.error _, _) => []
    | (.ok none, e) => runsOfEach i rest e
    | (.ok (some _), e) =>
      (⟨sql, []⟩, e) ::
        match Engine.run i sql [] e with
        | (.error _, _) => []
        | (.ok _, e) => runsOfEach i rest e

/-- The ways of statements that are prepared and run one after another. -/
inductive Executes (i : HandleId) :
    List String → ε → List (Performed × ε) → Except Report Unit → ε → Prop
  | done {e : ε} : Executes i [] e [] (.ok ()) e
  | unprepared {sql : String} {rest : List String} {e e₁ : ε} {report : Report}
      (hprepare : Engine.prepare i sql e = (.error report, e₁)) :
      Executes i (sql :: rest) e [] (.error report) e₁
  /-- There is no statement in the text. -/
  | skipped {sql : String} {rest : List String} {e e₁ e₂ : ε} {runs : List (Performed × ε)}
      {r : Except Report Unit} (hprepare : Engine.prepare i sql e = (.ok none, e₁))
      (hrest : Executes i rest e₁ runs r e₂) : Executes i (sql :: rest) e runs r e₂
  | failed {sql : String} {rest : List String} {e e₁ e₂ : ε} {names : List (Option String)}
      {report : Report} (hprepare : Engine.prepare i sql e = (.ok (some names), e₁))
      (hrun : Engine.run i sql [] e₁ = (.error report, e₂)) :
      Executes i (sql :: rest) e [(⟨sql, []⟩, e₁)] (.error report) e₂
  | ran {sql : String} {rest : List String} {e e₁ e₂ e₃ : ε} {names : List (Option String)}
      {rows : List (List Cell)} {runs : List (Performed × ε)} {r : Except Report Unit}
      (hprepare : Engine.prepare i sql e = (.ok (some names), e₁))
      (hrun : Engine.run i sql [] e₁ = (.ok rows, e₂)) (hrest : Executes i rest e₂ runs r e₃) :
      Executes i (sql :: rest) e ((⟨sql, []⟩, e₁) :: runs) r e₃

theorem executes_executeEach (i : HandleId) (statements : List String) (e : ε) :
    Executes i statements e (runsOfEach i statements e) (executeEach i statements e).1
      (executeEach i statements e).2 := by
  induction statements generalizing e with
  | nil => exact .done
  | cons sql rest ih =>
    rw [executeEach, runEach, runsOfEach]
    rcases hprepare : Engine.prepare i sql e with ⟨report | (_ | names), e₁⟩
    · exact .unprepared hprepare
    · exact .skipped hprepare (ih e₁)
    · dsimp only
      rcases hrun : Engine.run i sql [] e₁ with ⟨report | rows, e₂⟩
      · exact .failed hprepare hrun
      · exact .ran hprepare hrun (ih e₂)

/-- What is seen of a state afterwards: preparing leaves it alone, and so the statements that were run have
decided about it, one after another. -/
theorem Executes.foldl {i : HandleId} {V : Type} {view : ε → V} {next : V → Performed × ε → V}
    {texts : List String} {e e' : ε} {runs : List (Performed × ε)} {r : Except Report Unit}
    (h : Executes i texts e runs r e')
    (hprepare : ∀ sql ∈ texts, ∀ e, view (Engine.prepare i sql e).2 = view e)
    (hrun : ∀ sql ∈ texts, ∀ e, view (Engine.run i sql [] e).2 = next (view e) (⟨sql, []⟩, e)) :
    view e' = runs.foldl next (view e) := by
  induction h with
  | done => rfl
  | @unprepared sql _ e _ _ heq =>
    have hview := hprepare sql List.mem_cons_self e
    rwa [heq] at hview
  | @skipped sql _ e _ _ _ _ heq _ ih =>
    obtain ⟨hview, hrest⟩ := List.forall_mem_cons.1 hprepare
    have hview := hview e
    rw [heq] at hview
    rw [ih hrest (List.forall_mem_cons.1 hrun).2, hview]
  | @failed sql _ e e₁ _ _ _ heq hfails =>
    have hview := hprepare sql List.mem_cons_self e
    have hnext := hrun sql List.mem_cons_self e₁
    rw [heq] at hview
    rw [hfails] at hnext
    rw [List.foldl_cons, List.foldl_nil, hnext, hview]
  | @ran sql _ e e₁ _ _ _ _ _ _ heq hran _ ih =>
    obtain ⟨hview, hprepare⟩ := List.forall_mem_cons.1 hprepare
    obtain ⟨hnext, hrun⟩ := List.forall_mem_cons.1 hrun
    have hview := hview e
    have hnext := hnext e₁
    rw [heq] at hview
    rw [hran] at hnext
    rw [ih hprepare hrun, List.foldl_cons, hnext, hview]

/-- Whether a statement succeeds in the state that it finds. -/
def succeeds (i : HandleId) (x : Performed × ε) : Bool :=
  (Engine.run i x.1.sql x.1.cells x.2).1.isOk

end Engine

/-- The promise of an engine about scripts: a script is statements, each of which is a text of its own,
and to execute it is to prepare and to run them one after another until one fails. -/
structure Scripting (ε : Type) [Engine ε] (i : HandleId) where
  statements : String → List String
  exec_eq : ∀ sql (e : ε), Engine.exec i sql e = Engine.executeEach i (statements sql) e

/-! ## Watching an engine -/

/-- What an engine is asked to do. -/
inductive Demand where
  | begin
  | commit
  | rollback
  | close
  | prepare (sql : String)
  | run (x : Performed)
  | exec (sql : String)
  deriving DecidableEq

/-- An engine, and what was asked of it so far: each demand with its handle and the state that it
found. -/
structure Watched (ε : Type) where
  engine : ε
  log : List (HandleId × Demand × ε)

namespace Watched

variable {ε α : Type}

/-- Passes a call on, and writes it down. -/
def pass (i : HandleId) (d : Demand) (f : ε → Except Report α × ε) (w : Watched ε) :
    Except Report α × Watched ε :=
  ((f w.engine).1, ⟨(f w.engine).2, w.log ++ [(i, d, w.engine)]⟩)

variable [Engine ε]

instance : Engine (Watched ε) where
  begin i := pass i .begin (Engine.begin i)
  commit i := pass i .commit (Engine.commit i)
  rollback i := pass i .rollback (Engine.rollback i)
  close i := pass i .close (Engine.close i)
  prepare i sql := pass i (.prepare sql) (Engine.prepare i sql)
  bind i sql position x w := Engine.bind i sql position x w.engine
  run i sql cells := pass i (.run ⟨sql, cells⟩) (Engine.run i sql cells)
  exec i sql := pass i (.exec sql) (Engine.exec i sql)
  changes i w := Engine.changes i w.engine
  lastRowId i w := Engine.lastRowId i w.engine

end Watched

/-! ## The statements that were run -/

namespace Scripting

variable {ε : Type} [Engine ε] {i : HandleId} (T : Scripting ε i)

/-- The statements that a demand has run, each with the state that it has found. -/
def runs : HandleId × Demand × ε → List (Performed × ε)
  | (_, .run x, e) => [(x, e)]
  | (_, .exec sql, e) => Engine.runsOfEach i (T.statements sql) e
  | _ => []

/-- The statements that demands have run with success. -/
def succeeded (demands : List (HandleId × Demand × ε)) : List Performed :=
  ((demands.flatMap T.runs).filter (Engine.succeeds i)).map Prod.fst

theorem succeeded_append (first last : List (HandleId × Demand × ε)) :
    T.succeeded (first ++ last) = T.succeeded first ++ T.succeeded last := by
  rw [succeeded, List.flatMap_append, List.filter_append, List.map_append]
  rfl

/-- A demand that runs nothing. -/
theorem succeeded_singleton_of_runs {x : HandleId × Demand × ε} (h : T.runs x = []) :
    T.succeeded [x] = [] := by
  rw [succeeded, List.flatMap_singleton, h]
  rfl

/-- A demand that runs a single statement. -/
theorem succeeded_run (j : HandleId) (x : Performed) (e : ε) :
    T.succeeded [(j, .run x, e)] = if Engine.succeeds i (x, e) then [x] else [] := by
  rw [succeeded, List.flatMap_singleton, runs, List.filter_cons, List.filter_nil]
  split <;> rfl

/-- How a script goes on from a state. -/
theorem executes (sql : String) (e : ε) :
    Engine.Executes i (T.statements sql) e (Engine.runsOfEach i (T.statements sql) e)
      (Engine.exec i sql e).1 (Engine.exec i sql e).2 := by
  rw [T.exec_eq]
  exact Engine.executes_executeEach i _ e

end Scripting

end EntitySession.Sqlite
