import EntitySession.Proofs.Suppliers

/-!
# What a world looks like to its sessions

A program calls its sessions, resolves references and loads collections, opens sessions, and does
whatever else it likes to the instances: `World.Step` is one of these.

To one of the sessions such a step is a call of its own, a question of one of the associations that it
has bound, or something that others do (`World.Seen`, `World.Step.seen`).  So a session of a world is
in a state that it can come to by itself (`World.Reachable.session`), and what holds of all of these
holds of it.

Finding and loading is reading: whoever does it, the instances that are there keep their identifiers
and their simple columns, and every session keeps what it tracks, with its baselines
(`World.Step.read`).
-/

set_option autoImplicit false

namespace EntitySession.World

variable {δ : Type} {S : Schema} {w u v : World δ} {n : Nat} {x y : Work δ}

/-! ## Steps -/

/-- What a program does with its sessions and associations. -/
inductive Event where
  /-- The session with a number was called. -/
  | called (n : Nat) (c : Session.Call) (answer : Except Error (List InstanceId))
  | resolved (place : Place) (r : Reference) (answer : Except Error (Option InstanceId))
  | loaded (c : Collection) (answer : Except Error (List InstanceId))
  /-- A session was opened. -/
  | opened
  | elsewhere

/-- A moment of a world. -/
abbrev Moment (δ : Type) : Type := EntitySession.Moment (World δ) Event

/-- Whether nothing was asked for but what there is. -/
def Event.IsRead : Event → Prop
  | called _ (.find _ _) _ | called _ (.ask _) _ | resolved _ _ _ | loaded _ _ => True
  | _ => False

section Steps

variable [Database δ] [Callbacks δ]

/-- A step of a program.  Whatever it does elsewhere, to the instances, to the outside, to association
values or to transactions, its instances stay what they are, and of the sessions it changes no more than
who holds them, which choices they will make and which transaction is theirs. -/
inductive Step (S : Schema) : World δ → Event → World δ → Prop
  | called (n : Nat) (c : Session.Call) {w v : World δ} {r : Except Error (List InstanceId)}
      (h : (onSession n (c.act S)).perform w = (r, v)) : Step S w (.called n c r) v
  | resolved (place : Place) (held : String) {r : Reference} {w v : World δ}
      {answer : Except Error (Option InstanceId)} (hr : w.link? place = some (.reference held r))
      (h : (resolve S place held r).perform w = (answer, v)) : Step S w (.resolved place r answer) v
  | loaded (held : String) (c : Collection) {w v : World δ} {answer : Except Error (List InstanceId)}
      (h : (load S held c).perform w = (answer, v)) : Step S w (.loaded c answer) v
  | opened (connection : ConnectionId) (showSql : Bool) (w : World δ) :
      Step S w .opened ((openSession connection showSql).perform w).2
  | elsewhere {w v : World δ} (hheap : w.site.heap.KeepsTypes v.site.heap)
      (hsize : v.sessions.size = w.sessions.size)
      (hsessions : ∀ (n : Nat) (s : Session), w.sessions[n]? = some s → ∃ choices held transaction,
        v.sessions[n]? = some
          { s with choices := choices, isHeld := held, transaction := transaction }) :
      Step S w .elsewhere v

/-- A program may do anything to its instances but change their types. -/
theorem Step.of_keepsTypes {heap : Heap} (h : w.site.heap.KeepsTypes heap) :
    Step S w .elsewhere { w with site := { w.site with heap := heap } } :=
  .elsewhere h rfl fun _ s hs => ⟨s.choices, s.isHeld, s.transaction, hs⟩

omit [Database δ] [Callbacks δ] in
/-- When a session is opened the others are left alone. -/
theorem work?_openSession (connection : ConnectionId) (showSql : Bool) (hx : w.work? n = some x) :
    ((openSession connection showSql).perform w).2.work? n = some x := by
  obtain ⟨hs, hsite⟩ := work?_eq_some.1 hx
  refine work?_eq_some.2 ⟨?_, hsite⟩
  obtain ⟨hn, -⟩ := Array.getElem?_eq_some_iff.1 hs
  exact (Array.getElem?_push_lt hn).trans ((Array.getElem?_eq_getElem hn).symm.trans hs)

/-- The states that a program can come to. -/
def Reachable (S : Schema) (w : World δ) : Prop :=
  ∃ outside trace, Run (Step S) (start outside) trace w

theorem Reachable.step {e : Event} (hw : Reachable S w) (h : Step S w e v) : Reachable S v := by
  obtain ⟨outside, trace, hrun⟩ := hw
  exact ⟨outside, _, hrun.trans (.single h)⟩

/-- What an event is to the session with a number. -/
inductive Seen (S : Schema) (n : Nat) : Event → Work δ → Work δ → Prop
  /-- It was called. -/
  | called {c : Session.Call} {x y : Work δ} {r : Except Error (List InstanceId)}
      (h : Session.Step S x (.call c r) y) : Seen S n (.called n c r) x y
  /-- It was asked, and then an association kept what it had got. -/
  | asked {e : Event} {request : Request} {x y : Work δ} {r : Except Error (List InstanceId)}
      {site : Site δ} (h : Session.Step S x (.call (.ask request) r) y)
      (hkeys : y.site.heap.KeepsKeys S site.heap) : Seen S n e x { y with site := site }
  /-- Others have done something. -/
  | others {e : Event} {x : Work δ} {site : Site δ} (hkeys : x.site.heap.KeepsKeys S site.heap) :
      Seen S n e x { x with site := site }
  /-- The program has done something. -/
  | elsewhere {x y : Work δ} (h : Session.Step S x .elsewhere y) : Seen S n .elsewhere x y

/-- Nothing has happened. -/
theorem Seen.same (n : Nat) (e : Event) (x : Work δ) : Seen S n e x x := by
  have hothers : Seen S n e x { x with site := x.site } := .others (.refl S _)
  exact hothers

/-- A supplier has done something, and then an association has kept what it had got. -/
theorem Served.seen {supplier : Supplier} {r : Except Error (List InstanceId)}
    (h : Served S w supplier r u) (hsessions : v.sessions = u.sessions)
    (hkeys : u.site.heap.KeepsKeys S v.site.heap) (hx : w.work? n = some x) (e : Event) :
    ∃ y, v.work? n = some y ∧ Seen S n e x y := by
  obtain ⟨hs, hsite⟩ := work?_eq_some.1 hx
  have haside (hs' : v.sessions[n]? = some x.session) : ∃ y, v.work? n = some y ∧ Seen S n e x y := by
    refine ⟨{ x with site := v.site }, work?_eq_some.2 ⟨hs', rfl⟩, .others ?_⟩
    have hextends := h.extends
    rw [hsite] at hextends
    exact Heap.KeepsKeys.trans (hextends.keepsValues S).keepsKeys hkeys
  rw [hsessions] at haside
  cases h with
  | outside => exact haside hs
  | refused => exact haside hs
  | @asked _ _ m request x' y _ hx' h =>
    by_cases hm : m = n
    · subst hm
      rw [hx, Option.some.injEq] at hx'
      subst hx'
      refine ⟨{ y with site := v.site }, work?_eq_some.2 ⟨?_, rfl⟩, .asked (.call (.ask _) h) hkeys⟩
      rw [hsessions]
      exact (work?_eq_some.1 (work?_install_self hx)).1
    · exact haside (work?_eq_some.1 (work?_install_ne hm hx)).1

/-- A step of a program is something to each of the sessions. -/
theorem Step.seen (hS : S.Lawful) {e : Event} (h : Step S w e v) (hx : w.work? n = some x) :
    ∃ y, v.work? n = some y ∧ Seen S n e x y := by
  obtain ⟨hs, hsite⟩ := work?_eq_some.1 hx
  cases h with
  | called m c h =>
    cases onSession_performs h with
    | missing => exact ⟨x, hx, .same n _ x⟩
    | @done z _ _ hm hz =>
      by_cases hmn : m = n
      · subst hmn
        rw [hx, Option.some.injEq] at hm
        subst hm
        exact ⟨_, work?_install_self hx, .called (.call c hz)⟩
      · refine ⟨_, work?_install_ne hmn hx, .others ?_⟩
        rw [← hsite, (work?_eq_some.1 hm).2]
        have hkeys := (Session.act_change (S := S) c z).keepsKeys
        rw [hz] at hkeys
        exact hkeys
  | resolved place held hr h =>
    cases resolve_resolves h with
    | known =>
      exact ⟨x, hx, .same n _ x⟩
    | failed hserved => exact hserved.seen rfl (.refl S _) hx _
    | filled hserved =>
      exact hserved.seen (setLink_sessions ..) (setLink_keepsValues hS ..).keepsKeys hx _
  | loaded held c h =>
    cases load_loads h with
    | known =>
      exact ⟨x, hx, .same n _ x⟩
    | failed hserved => exact hserved.seen rfl (.refl S _) hx _
    | filled hserved =>
      refine hserved.seen ?_ ?_ hx _
      · rfl
      · exact ((Heap.fillCell_extends _ _ _).keepsValues S).keepsKeys
  | opened connection showSql => exact ⟨x, work?_openSession connection showSql hx, .same n _ x⟩
  | elsewhere hheap hsize hsessions =>
    obtain ⟨choices, held, transaction, hs'⟩ := hsessions n _ hs
    refine ⟨⟨v.site, _⟩, work?_eq_some.2 ⟨hs', rfl⟩, .elsewhere (.elsewhere _ _ _ ?_)⟩
    rw [← hsite]
    exact hheap

/-! ## What the sessions of a world keep -/

/-- What happens in a world is a step or two of each session. -/
theorem Seen.reachable {e : Event} (h : Seen S n e x y) (hx : Session.Reachable S x) :
    Session.Reachable S y := by
  cases h with
  | called h => exact hx.step h
  | asked h hkeys => exact (hx.step h).step (.elsewhere _ _ _ hkeys.types)
  | others hkeys => exact hx.step (.elsewhere _ _ _ hkeys.types)
  | elsewhere h => exact hx.step h

theorem Seen.isOpen {e : Event} (h : Seen S n e x y) (hy : y.session.isOpen = true) :
    x.session.isOpen = true := by
  cases h with
  | called h => exact h.isOpen hy
  | asked h _ => exact h.isOpen hy
  | others => exact hy
  | elsewhere h => exact h.isOpen hy

/-- The session with a number has deleted a key. -/
def Deletes (S : Schema) (n : Nat) (k : EntityKey) (m : Moment δ) : Prop :=
  ∃ i r j, m.event = .called n (.delete i) (.ok r) ∧ m.before.site.heap.key S i = .ok j ∧
    (j == k) = true

/-- The program changed no identifier of an instance that the session with a number tracks. -/
def LeavesIds (S : Schema) (n : Nat) (m : Moment δ) : Prop :=
  m.event = .elsewhere → ∀ x, m.before.work? n = some x → ∀ e ∈ x.session.context.instances, ∀ v,
    m.before.site.heap.id S e.2 = .ok v → m.after.site.heap.id S e.2 = .ok v

/-- While the session is open, what is tracked under a key stays there until the key is deleted. -/
theorem Seen.tracked {e : Event} {k : EntityKey} {i : InstanceId} (h : Seen S n e x y)
    (hd : ∀ j r l, e = .called n (.delete j) (.ok r) → x.site.heap.key S j = .ok l → (l == k) = false)
    (hy : y.session.isOpen = true) (hk : x.session.context.get? k = some i) :
    y.session.context.get? k = some i := by
  cases h with
  | called h =>
    refine Session.step_tracked h ?_ hy hk
    rintro ⟨j, r, l, hevent, hl, hlk⟩
    cases hevent
    rw [hd j r l rfl hl] at hlk
    cases hlk
  | @asked _ request _ z r _ h _ =>
    have hd' : ¬Session.Deletes S k ⟨x, .call (.ask request) r, z⟩ := by
      rintro ⟨j, r, l, hevent, -⟩
      cases hevent
    have hz := Session.step_tracked h hd' hy hk
    exact hz
  | others => exact hk
  | elsewhere h =>
    refine Session.step_tracked h ?_ hy hk
    rintro ⟨j, r, l, hevent, -⟩
    cases hevent

/-- If nobody changes the identifiers of tracked instances, these keep the keys that they are tracked
under. -/
theorem Seen.identified {e : Event} (h : Seen S n e x y)
    (hleaves : e = .elsewhere → ∀ e ∈ x.session.context.instances, ∀ v,
      x.site.heap.id S e.2 = .ok v → y.site.heap.id S e.2 = .ok v)
    (hs : Session.Sound S x) (hx : x.session.context.Identified S x.site.heap) :
    y.session.context.Identified S y.site.heap := by
  cases h with
  | called h => exact Session.step_identified h nofun hs hx
  | asked h hkeys =>
    exact (Session.step_identified h nofun hs hx).of_keepsKeys (hs.step h).context hkeys
  | others hkeys => exact hx.of_keepsKeys hs.context hkeys
  | elsewhere h => exact Session.step_identified h (fun _ => hleaves rfl) hs hx

/-- Sessions come by being opened, and they stay. -/
theorem Step.size {e : Event} (h : Step S w e v) (he : e ≠ .opened) :
    v.sessions.size = w.sessions.size := by
  cases h with
  | called m c h =>
    cases onSession_performs h with
    | missing => rfl
    | done => exact install_size ..
  | resolved place held hr h =>
    cases resolve_resolves h with
    | known => rfl
    | failed hserved => exact hserved.size
    | filled hserved => exact (congrArg Array.size (setLink_sessions ..)).trans hserved.size
  | loaded held c h =>
    cases load_loads h with
    | known => rfl
    | failed hserved => exact hserved.size
    | filled hserved => exact hserved.size
  | opened => exact absurd rfl he
  | elsewhere _ hsize _ => exact hsize

/-- A session that was not there before is new. -/
theorem Step.new {e : Event} (h : Step S w e v) (hw : w.work? n = none) (hy : v.work? n = some y) :
    ∃ g, y = ⟨v.site, .start g (.session n)⟩ := by
  rw [work?_eq_none] at hw
  by_cases he : e = .opened
  · subst he
    cases h with
    | opened connection showSql =>
      obtain ⟨hs, hsite⟩ := work?_eq_some.1 hy
      have hs : (w.sessions.push (.start ⟨connection, showSql⟩ (.session w.sessions.size)))[n]? =
          some y.session := hs
      obtain ⟨hn, -⟩ := Array.getElem?_eq_some_iff.1 hs
      rw [Array.size_push] at hn
      obtain rfl : n = w.sessions.size := by omega
      rw [Array.getElem?_push_size, Option.some.injEq] at hs
      refine ⟨⟨connection, showSql⟩, ?_⟩
      rw [hs, hsite]
  · have hnone : v.work? n = none := work?_eq_none.2 (by rw [h.size he]; exact hw)
    rw [hnone] at hy
    cases hy

/-- A session of a world is in a state that it can come to by itself. -/
theorem Reachable.session (hS : S.Lawful) (hw : Reachable S w) (hx : w.work? n = some x) :
    Session.Reachable S x := by
  obtain ⟨outside, trace, hrun⟩ := hw
  refine hrun.invariant (P := fun v : World δ => ∀ x, v.work? n = some x → Session.Reachable S x)
    ?_ ?_ x hx
  · intro m _ hstep hbefore y hy
    cases hm : m.before.work? n with
    | none =>
      obtain ⟨g, rfl⟩ := hstep.new hm hy
      exact Session.reachable_start ..
    | some z =>
      obtain ⟨y', hy', hseen⟩ := hstep.seen hS hm
      rw [hy, Option.some.injEq] at hy'
      subst hy'
      exact hseen.reachable (hbefore z hm)
  · intro y hy
    cases hy

/-! ## Reading -/

/-- What a read makes of the instances: some were added, and the reference that was resolved keeps what
it has got. -/
inductive Reads (h : Heap) : Event → Heap → Prop
  | grown {e : Event} {h' : Heap} (hh : h.Extends h') : Reads h e h'
  | kept {i : InstanceId} {name held : String} {key : Value} {supplier : Supplier}
      {result : Option InstanceId} {h' : Heap} (hh : h.Extends h')
      (hlink : h.link? i name = some (.reference held (.unloaded key none supplier))) :
      Reads h (.resolved (.field i name) (.unloaded key none supplier) (.ok result))
        (h'.setLink i name (.reference held (.unloaded key (some result) supplier)))

theorem Reads.keepsValues (hS : S.Lawful) {e : Event} {h h' : Heap} (hr : Reads h e h') :
    h.KeepsValues S h' := by
  cases hr with
  | grown hh => exact hh.keepsValues S
  | kept hh _ => exact (hh.keepsValues S).trans (Heap.setLink_keepsValues hS ..)

/-- The acts that read. -/
theorem act_growth {c : Session.Call} {r : Except Error (List InstanceId)}
    (he : (Event.called n c r).IsRead) (z : Work δ) : (c.act S).Via (Work.Growth S) z := by
  cases c with
  | find entity id => exact .map _ (Session.findById_growth entity id z)
  | ask request => exact Session.askSession_growth request z
  | _ => cases he

/-- Reading takes nothing away from the instances that are there. -/
theorem Step.reads {e : Event} (h : Step S w e v) (he : e.IsRead) :
    Reads w.site.heap e v.site.heap := by
  cases h with
  | called m c h =>
    cases onSession_performs h with
    | missing => exact .grown (.refl _)
    | @done z _ _ hm hz =>
      have hheap := (act_growth (S := S) he z).grows.heap
      rw [hz, ← (work?_eq_some.1 hm).2] at hheap
      exact .grown hheap
  | resolved place held hr h =>
    cases resolve_resolves h with
    | known => exact .grown (.refl _)
    | failed hserved => exact .grown hserved.extends
    | filled hserved =>
      cases place with
      | field i name => exact .kept hserved.extends hr
      | loose name => exact .grown hserved.extends
  | loaded held c h =>
    cases load_loads h with
    | known => exact .grown (.refl _)
    | failed hserved => exact .grown hserved.extends
    | filled hserved => exact .grown (hserved.extends.trans (Heap.fillCell_extends _ _ _))
  | _ => cases he

/-- To each of the sessions a read is growth, and then an association keeps what it has got. -/
theorem Step.read {e : Event} (h : Step S w e v) (he : e.IsRead) (hx : w.work? n = some x) :
    ∃ y, Relation.ReflTransGen (Work.Growth S) x y ∧ Reads y.site.heap e v.site.heap ∧
      v.work? n = some ⟨v.site, y.session⟩ := by
  have hreads := h.reads he
  obtain ⟨hs, hsite⟩ := work?_eq_some.1 hx
  rw [hsite] at hreads
  have haside (hs' : v.sessions[n]? = some x.session) : ∃ y,
      Relation.ReflTransGen (Work.Growth S) x y ∧ Reads y.site.heap e v.site.heap ∧
        v.work? n = some ⟨v.site, y.session⟩ :=
    ⟨x, .refl, hreads, work?_eq_some.2 ⟨hs', rfl⟩⟩
  have hasked {u : World δ} {supplier : Supplier} {r : Except Error (List InstanceId)}
      (hserved : Served S w supplier r u) (hsessions : v.sessions = u.sessions)
      (hkept : Reads u.site.heap e v.site.heap) : ∃ y,
      Relation.ReflTransGen (Work.Growth S) x y ∧ Reads y.site.heap e v.site.heap ∧
        v.work? n = some ⟨v.site, y.session⟩ := by
    rcases hserved.session hx with hs' | ⟨y, hy, hgrowth⟩
    · exact haside (by rw [hsessions, hs'])
    · obtain ⟨hs', hsite'⟩ := work?_eq_some.1 hy
      exact ⟨y, hgrowth, hsite' ▸ hkept, work?_eq_some.2 ⟨by rw [hsessions, hs'], rfl⟩⟩
  cases h with
  | called m c h =>
    cases onSession_performs h with
    | missing => exact haside hs
    | done hm hz =>
      by_cases hmn : m = n
      · subst hmn
        rw [hx, Option.some.injEq] at hm
        subst hm
        obtain rfl := congrArg Prod.snd hz
        exact ⟨_, act_growth he x, .grown (.refl _), work?_install_self hx⟩
      · exact haside (work?_eq_some.1 (work?_install_ne hmn hx)).1
  | resolved place held hr h =>
    cases resolve_resolves h with
    | known => exact haside hs
    | failed hserved => exact hasked hserved rfl (.grown (.refl _))
    | filled hserved =>
      refine hasked hserved (setLink_sessions ..) ?_
      cases place with
      | field i name => exact .kept (.refl _) (hserved.extends.link? hr)
      | loose name => exact .grown (.refl _)
  | loaded held c h =>
    cases load_loads h with
    | known => exact haside hs
    | failed hserved => exact hasked hserved rfl (.grown (.refl _))
    | filled hserved => exact hasked hserved rfl (.grown (Heap.fillCell_extends _ _ _))
  | _ => cases he

/-- Reading takes nothing away from what a session tracks, and changes nothing else of it. -/
theorem Step.read_session {e : Event} (h : Step S w e v) (he : e.IsRead) (hx : w.work? n = some x) :
    ∃ y, v.work? n = some y ∧ y.session = { x.session with context := y.session.context } ∧
      x.session.context.Grows y.session.context := by
  obtain ⟨y, hgrowth, -, hy⟩ := h.read he hx
  have hgrows := Work.grows_of_growth hgrowth
  exact ⟨_, hy, hgrows.session, hgrows.context⟩

end Steps

end EntitySession.World
