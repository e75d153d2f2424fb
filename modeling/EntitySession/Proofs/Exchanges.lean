import EntitySession.Proofs.Sessions

/-!
# The statements that were sent

What a session asks of a database is seen by writing it down.  `Recorded δ` is an outside `δ` together
with the statements that were sent to it, each with its values and its answer; to everybody who talks to
it, it behaves like `δ` itself.  The log of a site has the texts of the statements as well, but neither
what they were sent with nor how they ended.

What was written down stays: whatever is done, the record of exchanges only grows.
-/

set_option autoImplicit false

namespace EntitySession

/-- A statement that was sent, with its values and the answer to it. -/
inductive Exchange where
  | query (connection : ConnectionId) (sql : String) (values : List Value)
    (answer : Except Error (List Row))
  | execute (connection : ConnectionId) (sql : String) (values : List Value)
    (answer : Except Error Nat)
  | insert (connection : ConnectionId) (sql : String) (values : List Value)
    (answer : Except Error InsertResult)

/-- The text of the statement. -/
def Exchange.sql : Exchange → String
  | query _ sql _ _ | execute _ sql _ _ | insert _ sql _ _ => sql

/-- An outside, and the statements that were sent to it, the latest last. -/
structure Recorded (δ : Type) where
  outside : δ
  exchanges : List Exchange

namespace Recorded

variable {δ α : Type}

/-- Makes a call of the outside and writes down what there is to be seen of it. -/
def forward (seen : Except Error α → List Exchange) (f : δ → Except Error α × δ) (d : Recorded δ) :
    Except Error α × Recorded δ :=
  ((f d.outside).1, ⟨(f d.outside).2, d.exchanges ++ seen (f d.outside).1⟩)

instance [Database δ] : Database (Recorded δ) where
  query c sql values := forward (fun r => [.query c sql values r]) (Database.query c sql values)
  execute c sql values := forward (fun r => [.execute c sql values r]) (Database.execute c sql values)
  insert c sql values := forward (fun r => [.insert c sql values r]) (Database.insert c sql values)
  setAutoCommit c on := forward (fun _ => []) (Database.setAutoCommit c on)
  commit c := forward (fun _ => []) (Database.commit c)
  rollback c := forward (fun _ => []) (Database.rollback c)
  close c := forward (fun _ => []) (Database.close c)

instance [Callbacks δ] : Callbacks (Recorded δ) where
  loadOne target id := forward (fun _ => []) (Callbacks.loadOne target id)
  loadMany q := forward (fun _ => []) (Callbacks.loadMany q)
  supply number := forward (fun _ => []) (Callbacks.supply number)
  performAction number := forward (fun _ => []) (Callbacks.performAction number)

end Recorded

/-! ## What was written down stays -/

section Stays

variable {δ α : Type} [Database δ] [Callbacks δ] {S : Schema}

theorem Called.exchanges {d d' : Recorded δ} (h : Called d d') : d.exchanges <+: d'.exchanges := by
  cases h <;> exact ⟨_, rfl⟩

theorem Site.Growth.exchanges {s t : Site (Recorded δ)} (h : Site.Growth S s t) :
    s.outside.exchanges <+: t.outside.exchanges := by
  cases h with
  | called h => exact h.exchanges
  | noted => exact List.prefix_rfl
  | hydrated => exact List.prefix_rfl

theorem Site.Change.exchanges {s t : Site (Recorded δ)} (h : Site.Change S s t) :
    s.outside.exchanges <+: t.outside.exchanges := by
  cases h with
  | growth h => exact h.exchanges
  | identified => exact List.prefix_rfl

theorem Work.Change.exchanges {w v : Work (Recorded δ)} (h : Work.Change S w v) :
    w.site.outside.exchanges <+: v.site.outside.exchanges := by
  cases h with
  | growth h =>
    cases h with
    | site h => exact h.exchanges
    | tracked => exact List.prefix_rfl
  | site h => exact h.exchanges
  | _ => exact List.prefix_rfl

theorem Act.Via.exchanges {w : Work (Recorded δ)} {x : Act (Work (Recorded δ)) α}
    (h : x.Via (Work.Change S) w) :
    w.site.outside.exchanges <+: (x.perform w).2.site.outside.exchanges := by
  refine h.invariant
    (P := fun v : Work (Recorded δ) => w.site.outside.exchanges <+: v.site.outside.exchanges) ?_
    List.prefix_rfl
  exact fun _ _ hstep hv => hv.trans hstep.exchanges

end Stays

/-! ## What is sent -/

namespace Gateway

variable {δ α : Type}

/-- The site after a statement was sent: the instances are what they were. -/
def sent (g : Gateway) (s : Site (Recorded δ)) (outside : δ) (sql : String) (xs : List Exchange) :
    Site (Recorded δ) :=
  { s with
    outside := ⟨outside, s.outside.exchanges ++ xs⟩
    log := s.log ++ [⟨g.showSql, sql⟩] }

theorem send_ok {g : Gateway} {sql : String} {f : Fault} {seen : Except Error α → List Exchange}
    {run : δ → Except Error α × δ} {s t : Site (Recorded δ)} {a : α}
    (h : (g.send sql f (Recorded.forward seen run)).perform s = (.ok a, t)) :
    ∃ outside, t = g.sent s outside sql (seen (.ok a)) := by
  obtain ⟨hr, rfl⟩ := perform_send_ok h
  change (run s.outside.outside).1 = _ at hr
  exact ⟨_, by rw [sent, ← hr]; rfl⟩

theorem send_error {g : Gateway} {sql : String} {f : Fault} {seen : Except Error α → List Exchange}
    {run : δ → Except Error α × δ} {s t : Site (Recorded δ)} {e : Error}
    (h : (g.send sql f (Recorded.forward seen run)).perform s = (.error e, t)) :
    ∃ cause outside, e = f.causedBy cause ∧ t = g.sent s outside sql (seen (.error cause)) := by
  rw [perform_send, Prod.mk.injEq] at h
  obtain ⟨he, rfl⟩ := h
  change (run s.outside.outside).1.mapError f.causedBy = .error e at he
  cases hr : (run s.outside.outside).1 with
  | ok a =>
    rw [hr] at he
    cases he
  | error cause =>
    rw [hr] at he
    exact ⟨cause, _, (Except.error.inj he).symm, by rw [sent, ← hr]; rfl⟩

end Gateway

end EntitySession
