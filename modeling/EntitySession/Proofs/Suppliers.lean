import EntitySession.Proofs.Accessors
import EntitySession.Proofs.Calls

/-!
# What is asked when an association is loaded

An association that is loaded asks whom its supplier names, a session or the outside, and keeps what it
gets.  `World.Served` says what becomes of a world in which a supplier is asked, `World.Resolves` and
`World.Loads` what becomes of one in which a reference is resolved or a collection is loaded, whether
this succeeds or fails.

The session that is asked finds or loads, as if it were called for it.  To all the others nothing
happens but what shows at the site that they share.
-/

set_option autoImplicit false

namespace EntitySession

/-- The session that a supplier asks. -/
def Supplier.session? : Supplier → Option Nat
  | request _ _ (.session n) _ => some n
  | request _ _ .outside _ => none
  | outside _ => none

namespace World

variable {δ : Type} {S : Schema} {w u v : World δ} {n : Nat} {x y : Work δ}

/-! ## The sessions of a world -/

/-- The session with a number, and the site that it shares with the others. -/
def work? (n : Nat) (w : World δ) : Option (Work δ) := (w.sessions[n]?).map fun s => ⟨w.site, s⟩

/-- The world after the session with a number has done something. -/
def install (n : Nat) (x : Work δ) (w : World δ) : World δ :=
  { w with site := x.site, sessions := w.sessions.setIfInBounds n x.session }

theorem work?_eq_some : w.work? n = some x ↔ w.sessions[n]? = some x.session ∧ w.site = x.site := by
  rw [work?, Option.map_eq_some_iff]
  constructor
  · rintro ⟨s, hs, rfl⟩
    exact ⟨hs, rfl⟩
  · rintro ⟨hs, hsite⟩
    exact ⟨x.session, hs, by rw [hsite]⟩

theorem work?_eq_none : w.work? n = none ↔ w.sessions.size ≤ n := by
  rw [work?, Option.map_eq_none_iff, Array.getElem?_eq_none_iff]

theorem install_size (n : Nat) (x : Work δ) (w : World δ) :
    (w.install n x).sessions.size = w.sessions.size :=
  Array.size_setIfInBounds ..

theorem work?_install_self (hx : w.work? n = some x) : (w.install n y).work? n = some y := by
  obtain ⟨hs, -⟩ := work?_eq_some.1 hx
  obtain ⟨hn, -⟩ := Array.getElem?_eq_some_iff.1 hs
  refine work?_eq_some.2 ⟨?_, rfl⟩
  rw [install, Array.getElem?_setIfInBounds_self_of_lt hn]

/-- What another session has done shows at the site only. -/
theorem work?_install_ne {m : Nat} (hm : m ≠ n) (hx : w.work? n = some x) :
    (w.install m y).work? n = some { x with site := y.site } := by
  obtain ⟨hs, -⟩ := work?_eq_some.1 hx
  refine work?_eq_some.2 ⟨?_, rfl⟩
  rw [install, Array.getElem?_setIfInBounds_ne hm]
  exact hs

/-- What becomes of a world in which the session with a number is to do something. -/
inductive Performs {α : Type} (f : Act (Work δ) α) (n : Nat) (w : World δ) :
    Except Error α → World δ → Prop
  | missing (hx : w.work? n = none) : Performs f n w (.error .sessionClosed) w
  | done {x y : Work δ} {r : Except Error α} (hx : w.work? n = some x) (h : f.perform x = (r, y)) :
      Performs f n w r (w.install n y)

theorem onSession_performs {α : Type} {f : Act (Work δ) α} {r : Except Error α}
    (h : (onSession n f).perform w = (r, v)) : Performs f n w r v := by
  rw [onSession, Act.perform_of] at h
  cases hs : w.sessions[n]? with
  | none =>
    rw [hs] at h
    cases h
    exact .missing (Option.map_eq_none_iff.2 hs)
  | some s =>
    rw [hs] at h
    cases h
    exact .done (x := ⟨w.site, s⟩) (work?_eq_some.2 ⟨hs, rfl⟩) rfl

/-- A session is to do something, or it is left alone. -/
theorem Performs.done_or_kept {α : Type} {f : Act (Work δ) α} {m : Nat} {r : Except Error α}
    (h : Performs f m w r v) (hx : w.work? n = some x) :
    v.sessions[n]? = some x.session ∨
      m = n ∧ ∃ y, f.perform x = (r, y) ∧ v = w.install n y := by
  cases h with
  | missing => exact .inl (work?_eq_some.1 hx).1
  | @done z y _ hz h =>
    by_cases hm : m = n
    · subst hm
      rw [hx, Option.some.injEq] at hz
      subst hz
      exact .inr ⟨rfl, y, h, rfl⟩
    · exact .inl (work?_eq_some.1 (work?_install_ne hm hx)).1

/-- To put an association value somewhere leaves the sessions alone. -/
theorem setLink_sessions (place : Place) (l : Link) (w : World δ) :
    (w.setLink place l).sessions = w.sessions := by
  cases place <;> rfl

theorem setLink_outside (place : Place) (l : Link) (w : World δ) :
    (w.setLink place l).site.outside = w.site.outside := by
  cases place <;> rfl

theorem setLink_keepsTypes (place : Place) (l : Link) (w : World δ) :
    w.site.heap.KeepsTypes (w.setLink place l).site.heap := by
  cases place with
  | field i name => exact Heap.setLink_keepsTypes _ i name l
  | loose name => exact .refl _

theorem setLink_keepsValues (hS : S.Lawful) (place : Place) (l : Link) (w : World δ) :
    w.site.heap.KeepsValues S (w.setLink place l).site.heap := by
  cases place with
  | field i name => exact Heap.setLink_keepsValues hS _ i name l
  | loose name => exact .refl S _

/-! ## What suppliers do -/

section Suppliers

/-- What becomes of the outside when it is asked for targets. -/
inductive Supplies [Callbacks δ] : δ → δ → Prop
  | loadOne (target : String) (id : Value) (d : δ) : Supplies d (Callbacks.loadOne target id d).2
  | loadMany (q : AssociationQuery) (d : δ) : Supplies d (Callbacks.loadMany q d).2
  | supply (number : Nat) (d : δ) : Supplies d (Callbacks.supply number d).2

variable [Database δ] [Callbacks δ]

/-- What becomes of a world in which a supplier is asked. -/
inductive Served (S : Schema) (w : World δ) : Supplier → Except Error (List InstanceId) → World δ → Prop
  /-- The outside answers. -/
  | outside {supplier : Supplier} {r : Except Error (List InstanceId)} {d : δ}
      (hsupplier : supplier.session? = none) (h : Supplies w.site.outside d) :
      Served S w supplier r { w with site := { w.site with outside := d } }
  /-- Nobody answers. -/
  | refused {supplier : Supplier} {e : Error} : Served S w supplier (.error e) w
  /-- A session answers. -/
  | asked {owner field : String} {n : Nat} {request : Request} {x y : Work δ}
      {r : Except Error (List InstanceId)} (hx : w.work? n = some x)
      (h : (askSession S request).perform x = (r, y)) :
      Served S w (.request owner field (.session n) request) r (w.install n y)

omit [Database δ] in
/-- The outside is called once. -/
theorem askOutside_supplies (request : Request) (s : Site δ) :
    ∃ d, Supplies s.outside d ∧ ((askOutside request).perform s).2 = { s with outside := d } := by
  cases request with
  | byKey target id =>
    let P (t : Site δ) : Prop := ∃ d, Supplies s.outside d ∧ t = { s with outside := d }
    have hsupplies : P ((Site.call (Callbacks.loadOne target id)).perform s).2 :=
      ⟨_, .loadOne target id s.outside, rfl⟩
    refine Act.after_bind (P := P) (fun found t ht => ?_) fun e t ht => ?_
    · rw [ht] at hsupplies
      exact hsupplies
    · rw [ht] at hsupplies
      exact hsupplies
  | byQuery query => exact ⟨_, .loadMany query s.outside, rfl⟩

theorem ask_served {owner field : String} {loader : Loader} {request : Request}
    {r : Except Error (List InstanceId)} (h : (ask S loader request).perform w = (r, v)) :
    Served S w (.request owner field loader request) r v := by
  cases loader with
  | outside =>
    obtain rfl := congrArg Prod.snd h
    obtain ⟨d, hd, hsite⟩ := askOutside_supplies request w.site
    have hv : ((ask S .outside request).perform w).2 =
        { w with site := { w.site with outside := d } } := by rw [← hsite]; rfl
    rw [hv]
    exact .outside rfl hd
  | session n =>
    obtain ⟨held, h⟩ : ∃ held : Bool, (if held then onSession n (askSession S request)
        else throw Error.sessionClosed : Act (World δ) _).perform w = (r, v) := ⟨_, h⟩
    split at h
    · cases onSession_performs h with
      | missing => exact .refused
      | done hx hanswer => exact .asked hx hanswer
    · cases h
      exact .refused

/-- What a request answers, and what is made of the answer. -/
theorem request_served {α : Type} {owner field : String} {loader : Loader} {request : Request}
    {f : List InstanceId → Act (World δ) α} {r : Except Error α}
    (hf : ∀ items (t : World δ), ((f items).perform t).2 = t)
    (h : ((ask S loader request).blaming (loadFault owner field) >>= f).perform w = (r, v)) :
    ∃ served, Served S w (.request owner field loader request) served v ∧
      ∀ a, r = .ok a → ∃ items, served = .ok items ∧ (f items).perform v = (.ok a, v) := by
  rcases ha : (ask S loader request).perform w with ⟨served, u⟩
  have hserved : Served S w (.request owner field loader request) served u := ask_served ha
  refine ⟨served, ?_, ?_⟩
  · have hu : (((ask S loader request).blaming (loadFault owner field) >>= f).perform w).2 = u := by
      refine Act.after_bind (P := (· = u)) (fun items t ht => ?_) fun e t ht => ?_
      · rw [hf]
        exact (congrArg Prod.snd ht).symm.trans (congrArg Prod.snd ha)
      · exact (congrArg Prod.snd ht).symm.trans (congrArg Prod.snd ha)
    obtain rfl : u = v := hu.symm.trans (congrArg Prod.snd h)
    exact hserved
  · rintro a rfl
    obtain ⟨items, t, ht, hitems⟩ := Act.perform_bind_ok.1 h
    obtain rfl : t = v := by rw [← hf items t, hitems]
    refine ⟨items, ?_, hitems⟩
    rw [Act.perform_blaming, ha] at ht
    exact mapError_eq_ok.1 (Prod.mk.inj ht).1

theorem supply_served {held : String} {supplier : Supplier} {r : Except Error (List InstanceId)}
    (h : (supply S held supplier).perform w = (r, v)) :
    ∃ served, Served S w supplier served v ∧ ∀ items, r = .ok items → served = .ok items := by
  cases supplier with
  | outside number =>
    obtain rfl := congrArg Prod.snd h
    exact ⟨r, .outside rfl (.supply number w.site.outside), fun _ hr => hr⟩
  | request owner field loader request =>
    have hkeeps : ∀ (items : List InstanceId) (t : World δ), ((do
        checkLoaded owner field held items
        pure items : Act (World δ) (List InstanceId)).perform t).2 = t := fun items t =>
      Act.after_reading_bind (P := (· = t)) (fun _ _ => rfl) rfl
    obtain ⟨served, hserved, hr⟩ := request_served hkeeps h
    refine ⟨served, hserved, fun items hok => ?_⟩
    obtain ⟨items', hitems', hchecked⟩ := hr items hok
    obtain ⟨_, t, -, hpure⟩ := Act.perform_bind_ok.1 hchecked
    cases hpure
    exact hitems'

theorem supplyOne_served {held : String} {supplier : Supplier} {r : Except Error (Option InstanceId)}
    (h : (supplyOne S held supplier).perform w = (r, v)) :
    ∃ served, Served S w supplier served v ∧
      ∀ result, r = .ok result → ∃ items, served = .ok items ∧ items.head? = result := by
  cases supplier with
  | outside number =>
    obtain ⟨served, hserved, rfl⟩ := Act.perform_map_eq h
    obtain rfl := congrArg Prod.snd hserved
    refine ⟨served, .outside rfl (.supply number w.site.outside), fun result hr => ?_⟩
    obtain ⟨items, rfl, hhead⟩ := map_eq_ok.1 hr
    exact ⟨items, rfl, hhead⟩
  | request owner field loader request =>
    have hkeeps : ∀ (items : List InstanceId) (t : World δ), ((do
        checkLoaded owner field held (items.take 1)
        pure (items.take 1).head? : Act (World δ) (Option InstanceId)).perform t).2 = t :=
      fun items t => Act.after_reading_bind (P := (· = t)) (fun _ _ => rfl) rfl
    obtain ⟨served, hserved, hr⟩ := request_served hkeeps h
    refine ⟨served, hserved, fun result hok => ?_⟩
    obtain ⟨items, hitems, hchecked⟩ := hr result hok
    obtain ⟨_, t, -, hpure⟩ := Act.perform_bind_ok.1 hchecked
    cases hpure
    exact ⟨items, hitems, by cases items <;> rfl⟩

/-- Whatever a supplier does is reading. -/
theorem Served.extends {supplier : Supplier} {r : Except Error (List InstanceId)}
    (h : Served S w supplier r u) : w.site.heap.Extends u.site.heap := by
  cases h with
  | outside => exact .refl _
  | refused => exact .refl _
  | asked hx h =>
    obtain rfl := congrArg Prod.snd h
    rw [(work?_eq_some.1 hx).2]
    exact (Session.askSession_growth _ _).grows.heap

theorem Served.size {supplier : Supplier} {r : Except Error (List InstanceId)}
    (h : Served S w supplier r u) : u.sessions.size = w.sessions.size := by
  cases h with
  | asked => exact install_size ..
  | _ => rfl

/-- A supplier asks a session, or it leaves it alone. -/
theorem Served.asked_or_kept {supplier : Supplier} {r : Except Error (List InstanceId)}
    (h : Served S w supplier r u) (hx : w.work? n = some x) :
    u.sessions[n]? = some x.session ∨
      ∃ request y, (askSession S request).perform x = (r, y) ∧ u = w.install n y := by
  cases h with
  | outside => exact .inl (work?_eq_some.1 hx).1
  | refused => exact .inl (work?_eq_some.1 hx).1
  | @asked _ _ m request z y _ hz h =>
    refine ((Performs.done hz h).done_or_kept hx).imp_right ?_
    rintro ⟨rfl, y, h, hu⟩
    exact ⟨request, y, h, hu⟩

/-- To each of the sessions a supplier does nothing, or it makes it grow. -/
theorem Served.session {supplier : Supplier} {r : Except Error (List InstanceId)}
    (h : Served S w supplier r u) (hx : w.work? n = some x) :
    u.sessions[n]? = some x.session ∨
      ∃ y, u.work? n = some y ∧ Relation.ReflTransGen (Work.Growth S) x y := by
  refine (h.asked_or_kept hx).imp_right ?_
  rintro ⟨request, y, hasked, rfl⟩
  obtain rfl := congrArg Prod.snd hasked
  exact ⟨_, work?_install_self hx, Session.askSession_growth request x⟩

/-- A supplier that asks a session gets its answer from there. -/
theorem Served.of_session {supplier : Supplier} {items : List InstanceId}
    (h : Served S w supplier (.ok items) u) (hsupplier : supplier.session? = some n) :
    ∃ request x y, w.work? n = some x ∧ (askSession S request).perform x = (.ok items, y) ∧
      u = w.install n y := by
  cases h with
  | outside hnone =>
    rw [hnone] at hsupplier
    cases hsupplier
  | @asked _ _ m request x y _ hx h =>
    obtain rfl : m = n := Option.some.inj hsupplier
    exact ⟨request, x, y, hx, h, rfl⟩

/-! ## Loading -/

/-- What becomes of a world in which the reference at a place is resolved. -/
inductive Resolves (S : Schema) (w : World δ) (place : Place) (held : String) :
    Reference → Except Error (Option InstanceId) → World δ → Prop
  | known {r : Reference} {result : Option InstanceId} (h : r.result? = some result) :
      Resolves S w place held r (.ok result) w
  | failed {key : Value} {supplier : Supplier} {served : Except Error (List InstanceId)} {e : Error}
      {u : World δ} (h : Served S w supplier served u) :
      Resolves S w place held (.unloaded key none supplier) (.error e) u
  | filled {key : Value} {supplier : Supplier} {items : List InstanceId} {u : World δ}
      (h : Served S w supplier (.ok items) u) :
      Resolves S w place held (.unloaded key none supplier) (.ok items.head?)
        (u.setLink place (.reference held (.unloaded key (some items.head?) supplier)))

/-- A reference that is loaded keeps the first of what its supplier has got. -/
theorem Resolves.answered {place : Place} {held : String} {key : Value} {supplier : Supplier}
    {result : Option InstanceId}
    (h : Resolves S w place held (.unloaded key none supplier) (.ok result) v) :
    ∃ items u, Served S w supplier (.ok items) u ∧ items.head? = result ∧
      v = u.setLink place (.reference held (.unloaded key (some result) supplier)) := by
  generalize hr : Reference.unloaded key none supplier = r at h
  generalize hanswer : (Except.ok result : Except Error (Option InstanceId)) = answer at h
  cases h with
  | known hknown =>
    subst hr
    cases hknown
  | failed => cases hanswer
  | filled hserved =>
    cases hr
    cases hanswer
    exact ⟨_, _, hserved, rfl, rfl⟩

theorem resolve_resolves {place : Place} {held : String} {r : Reference}
    {answer : Except Error (Option InstanceId)}
    (h : (resolve S place held r).perform w = (answer, v)) : Resolves S w place held r answer v := by
  cases r with
  | empty =>
    cases h
    exact .known rfl
  | loaded target =>
    cases h
    exact .known rfl
  | unloaded key known supplier =>
    cases known with
    | some result =>
      cases h
      exact .known rfl
    | none =>
      cases answer with
      | error e =>
        rcases Act.perform_bind_error.1 h with h | ⟨result, u, -, h⟩
        · obtain ⟨served, hserved, -⟩ := supplyOne_served h
          exact .failed hserved
        · cases h
      | ok result =>
        obtain ⟨result', u, hu, h⟩ := Act.perform_bind_ok.1 h
        cases h
        obtain ⟨served, hserved, hr⟩ := supplyOne_served hu
        obtain ⟨items, rfl, rfl⟩ := hr result rfl
        exact .filled hserved

/-- What becomes of a world in which a collection is loaded. -/
inductive Loads (S : Schema) (w : World δ) :
    Collection → Except Error (List InstanceId) → World δ → Prop
  | known {c : Collection} {items : List InstanceId} (h : c.current? w.site.heap.cells = some items) :
      Loads S w c (.ok items) w
  | failed {distinct : Bool} {cell : CellId} {supplier : Supplier}
      {served : Except Error (List InstanceId)} {e : Error} {u : World δ}
      (h : Served S w supplier served u) : Loads S w (.lazy distinct cell supplier) (.error e) u
  | filled {distinct : Bool} {cell : CellId} {supplier : Supplier} {items : List InstanceId}
      {u : World δ} (h : Served S w supplier (.ok items) u) :
      Loads S w (.lazy distinct cell supplier) (.ok (Collection.normalize distinct items))
        { u with site := { u.site with
          heap := u.site.heap.fillCell cell (Collection.normalize distinct items) } }

/-- A collection that is loaded keeps what its supplier has got. -/
theorem Loads.answered {distinct : Bool} {cell : CellId} {supplier : Supplier}
    {items : List InstanceId} (h : Loads S w (.lazy distinct cell supplier) (.ok items) v)
    (hcell : (Collection.lazy distinct cell supplier).current? w.site.heap.cells = none) :
    ∃ found u, Served S w supplier (.ok found) u ∧ items = Collection.normalize distinct found ∧
      v = { u with site := { u.site with heap := u.site.heap.fillCell cell items } } := by
  generalize hc : Collection.lazy distinct cell supplier = c at h hcell
  generalize hanswer : (Except.ok items : Except Error (List InstanceId)) = answer at h
  cases h with
  | known hknown =>
    rw [hcell] at hknown
    cases hknown
  | failed => cases hanswer
  | filled hserved =>
    cases hc
    cases hanswer
    exact ⟨_, _, hserved, rfl, rfl⟩

theorem load_loads {held : String} {c : Collection} {answer : Except Error (List InstanceId)}
    (h : (load S held c).perform w = (answer, v)) : Loads S w c answer v := by
  cases hcurrent : c.current? w.site.heap.cells with
  | some items =>
    have hknown : (load S held c).perform w = (.ok items, w) := by
      rw [load, Act.perform_bind_of_ok (a := some items) (t := w)]
      · rfl
      · exact congrArg (fun current => (Except.ok current, w)) hcurrent
    rw [hknown] at h
    cases h
    exact .known hcurrent
  | none =>
    obtain ⟨distinct, contents⟩ := c
    cases contents with
    | own items => cases hcurrent
    | shared cell supplier =>
      rw [load, Act.perform_bind_of_ok (a := none) (t := w)] at h
      · cases answer with
        | error e =>
          rcases Act.perform_bind_error.1 h with h | ⟨items, u, -, h⟩
          · obtain ⟨served, hserved, -⟩ := supply_served h
            exact .failed hserved
          · cases h
        | ok items =>
          obtain ⟨items', u, hu, h⟩ := Act.perform_bind_ok.1 h
          cases h
          obtain ⟨served, hserved, hr⟩ := supply_served hu
          obtain rfl := hr items' rfl
          exact .filled hserved
      · exact congrArg (fun current => (Except.ok current, w)) hcurrent

end Suppliers

end World

end EntitySession
