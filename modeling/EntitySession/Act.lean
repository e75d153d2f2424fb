import EntitySession.Error

/-!
# Acts

An `Act` changes a state and either succeeds or fails.  A failure does not take the changes back: what
was done before it stays done, which is how a database behaves, and everybody who talks to one.

An act on a part of a state is an act on the whole (`Act.within`).
-/

set_option autoImplicit false

namespace EntitySession

/-- A computation on a state that may fail; the state outlives the failure. -/
abbrev Act (σ α : Type) : Type := ExceptT Error (StateM σ) α

namespace Act

variable {σ τ α β : Type}

/-- Performs an act. -/
def perform (x : Act σ α) (s : σ) : Except Error α × σ := (ExceptT.run x).run s

/-- The act with the given outcome in every state. -/
def of (f : σ → Except Error α × σ) : Act σ α := ExceptT.mk fun s => f s

/-- The act that computes something and changes nothing. -/
def lift (r : Except Error α) : Act σ α := of fun s => (r, s)

/-- The act that looks at the state. -/
def reading (f : σ → Except Error α) : Act σ α := of fun s => (f s, s)

/-- The act on a part of the state. -/
def within (get : σ → τ) (set : τ → σ → σ) (x : Act τ α) : Act σ α :=
  of fun s =>
    let (r, t) := x.perform (get s)
    (r, set t s)

/-- Passes a failure on as the cause of another. -/
def blaming (x : Act σ α) (wrap : Error → Error) : Act σ α :=
  of fun s =>
    let (r, s) := x.perform s
    (r.mapError wrap, s)

/-- What an act ends in, as a result that does not fail. -/
def outcome (x : Act σ α) : Act σ (Except Error α) :=
  of fun s =>
    let (r, s) := x.perform s
    (.ok r, s)

@[simp] theorem perform_of (f : σ → Except Error α × σ) (s : σ) : (of f).perform s = f s := rfl

@[simp] theorem perform_pure (a : α) (s : σ) : (pure a : Act σ α).perform s = (.ok a, s) := rfl

@[simp] theorem perform_throw (e : Error) (s : σ) :
    (throw e : Act σ α).perform s = (.error e, s) := rfl

@[simp] theorem perform_lift (r : Except Error α) (s : σ) :
    (lift r : Act σ α).perform s = (r, s) := rfl

@[simp] theorem perform_reading (f : σ → Except Error α) (s : σ) :
    (reading f).perform s = (f s, s) := rfl

@[simp] theorem perform_within (get : σ → τ) (set : τ → σ → σ) (x : Act τ α) (s : σ) :
    (x.within get set).perform s = ((x.perform (get s)).1, set (x.perform (get s)).2 s) := rfl

@[simp] theorem perform_blaming (x : Act σ α) (wrap : Error → Error) (s : σ) :
    (x.blaming wrap).perform s = ((x.perform s).1.mapError wrap, (x.perform s).2) := rfl

@[simp] theorem perform_outcome (x : Act σ α) (s : σ) :
    x.outcome.perform s = (.ok (x.perform s).1, (x.perform s).2) := rfl

/-- One act after another: the second begins where the first has ended, and a failure of the first
is the end. -/
theorem perform_bind (x : Act σ α) (f : α → Act σ β) (s : σ) :
    (x >>= f).perform s =
      match x.perform s with
      | (.ok a, s) => (f a).perform s
      | (.error e, s) => (.error e, s) := by
  change (ExceptT.run (x >>= f)).run s = _
  simp only [ExceptT.run_bind, StateT.run_bind, perform]
  rcases h : (ExceptT.run x).run s with ⟨r, t⟩
  cases r <;> rfl

end Act

end EntitySession
