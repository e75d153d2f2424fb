import EntitySession.Proofs.Suppliers

/-!
# What a closed session refuses

A session that is closed refuses everything but to be closed once more, and it does so in one way: the
call fails with `Error.sessionClosed`, an illegal state, and nothing has happened (`World.Refused`).
There are many ways to it.  It may be called itself (`call_refused`); a reference or a collection that it
has bound may ask it (`resolve_refused`, `load_refused`), and on the way that the failure takes from
there it is passed on as it is; and its transactions may begin or commit (`onTransaction_refused`).

What is loaded already asks nobody, and is there as it was (`resolve_known`, `load_known`).
-/

set_option autoImplicit false

namespace EntitySession

variable {δ : Type} {S : Schema}

/-! ## The calls of a closed session -/

namespace Session

theorem ensureOpen_closed {w : Work δ} (h : w.session.isOpen = false) :
    ensureOpen.perform w = (.error .sessionClosed, w) := by
  rw [ensureOpen, Work.perform_look, h]
  rfl

variable [Database δ] {w : Work δ}

/-- A session that is closed already does nothing more to close. -/
theorem close_of_closed (h : w.session.isOpen = false) : (close S).perform w = (.ok (), w) := by
  have hself : (Work.look fun s _ => .ok s).perform w = (.ok w.session, w) := rfl
  rw [close, Act.perform_bind_of_ok hself, h]
  rfl

variable [Callbacks δ]

/-- A closed session refuses every other call. -/
theorem act_of_closed {c : Call} (hc : c ≠ .close) (h : w.session.isOpen = false) :
    (c.act S).perform w = (.error .sessionClosed, w) := by
  have hrefuses {α : Type} (f : Unit → Act (Work δ) α) :
      (ensureOpen >>= f).perform w = (.error .sessionClosed, w) :=
    Act.perform_bind_of_error (ensureOpen_closed h) f
  cases c with
  | find entity id =>
    have hfound : (findById S entity id).perform w = (.error .sessionClosed, w) :=
      Act.perform_bind_of_error (hrefuses _) _
    rw [Call.act, Act.perform_map, hfound]
    rfl
  | ask request =>
    cases request with
    | byKey target id => exact Act.perform_bind_of_error (hrefuses _) _
    | byQuery query => exact hrefuses _
  | persist i =>
    rw [Call.act, Act.perform_map, persist, hrefuses]
    rfl
  | delete i =>
    rw [Call.act, Act.perform_map, delete, hrefuses]
    rfl
  | flush =>
    rw [Call.act, Act.perform_map, flush, hrefuses]
    rfl
  | close => exact absurd rfl hc

end Session

/-! ## What is refused in a world -/

theorem setIfInBounds_self {α : Type} {xs : Array α} {i : Nat} {a : α} (h : xs[i]? = some a) :
    xs.setIfInBounds i a = xs := by
  obtain ⟨hi, rfl⟩ := Array.getElem?_eq_some_iff.1 h
  rw [Array.setIfInBounds_def, dif_pos hi, Array.set_getElem_self]

/-- Whether a reference is not loaded, and a session would be asked for its target. -/
def Reference.Asks (n : Nat) : Reference → Prop
  | unloaded _ none supplier => supplier.session? = some n
  | _ => False

/-- Whether a collection is not loaded, and a session would be asked for its elements. -/
def Collection.Asks (n : Nat) (cells : Cells) (c : Collection) : Prop :=
  ∃ distinct cell supplier, c = .lazy distinct cell supplier ∧ supplier.session? = some n ∧
    c.current? cells = none

namespace World

variable {n : Nat} {w u v : World δ}

/-- The session with a number is closed. -/
def Closed (n : Nat) (w : World δ) : Prop := ∃ x, w.work? n = some x ∧ x.session.isOpen = false

/-- The act fails since a session is closed, and nothing has happened. -/
def Refused {α : Type} (x : Act (World δ) α) (w : World δ) : Prop :=
  x.perform w = (.error .sessionClosed, w)

/-- A chain whose first link is refused is refused. -/
theorem Refused.bind {α β : Type} {x : Act (World δ) α} (h : Refused x w)
    (f : α → Act (World δ) β) : Refused (x >>= f) w :=
  Act.perform_bind_of_error h f

/-- A session that has done nothing has left the world as it was. -/
theorem onSession_same {α : Type} {f : Act (Work δ) α} {r : Except Error α} {x : Work δ}
    (hx : w.work? n = some x) (h : f.perform x = (r, x)) : (onSession n f).perform w = (r, w) := by
  obtain ⟨hs, hsite⟩ := work?_eq_some.1 hx
  rw [onSession, Act.perform_of, hs]
  simp only [hsite, h, setIfInBounds_self hs]
  rw [← hsite]

/-- A transaction whose session is closed refuses what needs an open one. -/
theorem onTransaction_refused {α : Type} {t : TransactionId} {tx : Transaction}
    {x : Bool → Act (Transaction × δ) α} (hw : Closed n w) (ht : w.transactions[t]? = some tx)
    (hn : tx.session = n) (hx : ∀ s, (x false).perform s = (.error .sessionClosed, s)) :
    Refused (onTransaction t x) w := by
  obtain ⟨y, hy, hclosed⟩ := hw
  have hopen : w.isOpenFor tx = false := by
    rw [isOpenFor, hn, (work?_eq_some.1 hy).1]
    exact hclosed
  rw [Refused, onTransaction, Act.perform_of, ht]
  simp only [hopen, hx, setIfInBounds_self ht]

section Refusals

variable [Database δ] [Callbacks δ]

theorem call_refused {c : Session.Call} (hw : Closed n w) (hc : c ≠ .close) :
    Refused (onSession n (c.act S)) w := by
  obtain ⟨x, hx, hclosed⟩ := hw
  exact onSession_same hx (Session.act_of_closed hc hclosed)

/-- A closed session does not answer, whether it is still held or not. -/
theorem ask_refused (hw : Closed n w) (request : Request) : Refused (ask S (.session n) request) w := by
  have hcall : Refused (onSession n (askSession S request)) w :=
    call_refused (c := .ask request) hw nofun
  obtain ⟨x, hx, -⟩ := hw
  refine (Act.perform_bind_of_ok (a := x.session.isHeld) (t := w) ?_ _).trans ?_
  · rw [Act.perform_reading, (work?_eq_some.1 hx).1]
  · split
    · exact hcall
    · rfl

/-- A supplier that asks a closed session gets nothing. -/
theorem supply_refused (hw : Closed n w) {supplier : Supplier} (hs : supplier.session? = some n)
    (held : String) :
    Refused (supply S held supplier) w ∧ Refused (supplyOne S held supplier) w := by
  obtain ⟨owner, field, request, rfl⟩ :
      ∃ owner field request, supplier = .request owner field (.session n) request := by
    cases supplier with
    | outside => cases hs
    | request owner field loader request =>
      cases loader with
      | outside => cases hs
      | session m => exact ⟨owner, field, request, by rw [Option.some.inj hs]⟩
  -- that the session is closed is passed on as it is
  have hasked : Refused ((ask S (.session n) request).blaming (loadFault owner field)) w := by
    rw [Refused, Act.perform_blaming, ask_refused hw request]
    rfl
  exact ⟨hasked.bind _, hasked.bind _⟩

theorem resolve_refused (hw : Closed n w) {r : Reference} (hr : r.Asks n) (place : Place)
    (held : String) : Refused (resolve S place held r) w := by
  cases r with
  | empty => cases hr
  | loaded target => cases hr
  | unloaded key known supplier =>
    cases known with
    | some result => cases hr
    | none => exact (supply_refused hw hr held).2.bind _

theorem load_refused (hw : Closed n w) {c : Collection} (hc : c.Asks n w.site.heap.cells)
    (held : String) : Refused (load S held c) w := by
  obtain ⟨distinct, cell, supplier, rfl, hs, hcell⟩ := hc
  refine (Act.perform_bind_of_ok (a := none) (t := w) ?_ _).trans ((supply_refused hw hs held).1.bind _)
  exact congrArg (fun current => (Except.ok current, w)) hcell

theorem resolve_known {r : Reference} {result : Option InstanceId} (h : r.result? = some result)
    (place : Place) (held : String) : (resolve S place held r).perform w = (.ok result, w) := by
  cases r with
  | empty =>
    cases h
    rfl
  | loaded target =>
    cases h
    rfl
  | unloaded key known supplier =>
    obtain rfl : known = some result := h
    rfl

theorem load_known {c : Collection} {items : List InstanceId}
    (h : c.current? w.site.heap.cells = some items) (held : String) :
    (load S held c).perform w = (.ok items, w) :=
  Act.perform_bind_of_ok (congrArg (fun current => (Except.ok current, w)) h) _

end Refusals

end World

end EntitySession
