import EntitySession.Proofs.Flush
import EntitySession.Proofs.Refusals
import EntitySession.Proofs.Utterances
import EntitySession.Proofs.Worlds

/-!
# Closing is final

A session can be closed at any time, whatever waits and whatever has changed.  `World.closed_for_good`
says what this comes to, in any run of a program in which it happens:

* before that, the session has sent statements and nothing else; then it closes its connection, once, and
  says nothing else; afterwards it does not say a word;
* it tracks nothing from then on and nothing waits, and whatever it is asked, itself or through an
  association or a transaction of its own, is refused;
* what had been loaded stays loaded, and what had not stays unloaded.

All of this holds whether or not it was found out what had changed, and whether or not the connection
has closed: `Session.close_open` does not look at how either of them has ended.

The other sessions of the program and the program itself may do what they like in between.  So it is said
of each step what it means to the session that is closed (`Step.sessions`, `Step.silent`), and a run is
then a matter of induction (`run_closed`, `run_keeps`).
-/

set_option autoImplicit false

namespace EntitySession

variable {δ : Type} {S : Schema}

/-! ## What closing does -/

namespace Session

/-- Looking for changes changes nothing but the queue and the choices. -/
theorem scheduleUpdates_session (w : Work δ) : ∃ queue choices,
    ((scheduleUpdates S).perform w).2 =
      { w with session := { w.session with queue := queue, choices := choices } } := by
  let R (v u : Work δ) : Prop := ∃ queue choices,
    u = { v with session := { v.session with queue := queue, choices := choices } }
  have henqueue (dirty : List (EntityKey × InstanceId)) (v : Work δ) :
      (enqueueUpdates S dirty).Via R v := by
    induction dirty generalizing v with
    | nil => exact .pure _
    | cons e rest ih =>
      refine .bind (.reading _) fun columns v _ => ?_
      exact .bind (.of ⟨_, v.session.choices, rfl⟩) fun _ v _ => ih v
  have hvia : (scheduleUpdates S).Via R w := by
    refine .bind (.bind (.reading _) fun s v _ => ?_) fun dirty v _ => ?_
    · exact .bind (.of ⟨v.session.queue, _, rfl⟩) fun _ v _ => .reading _
    · exact .bind (henqueue dirty v) fun _ _ _ => .pure _
  refine hvia.invariant (P := R w) ?_ ⟨w.session.queue, w.session.choices, rfl⟩
  rintro _ _ ⟨queue, choices, rfl⟩ ⟨_, _, rfl⟩
  exact ⟨queue, choices, rfl⟩

/-- Closing calls the connection once, whatever comes of looking for changes. -/
theorem close_open [Database δ] {w : Work δ} (h : w.session.isOpen = true) : ∃ choices,
    ((close S).perform w).2 =
      { site := { w.site with
          outside := (Database.close w.session.gateway.connection w.site.outside).2 }
        session := { w.session with
          isOpen := false, queue := .empty, context := .empty, choices := choices } } := by
  let u : Work δ := { w with session := { w.session with isOpen := false } }
  obtain ⟨queue, choices, hscheduled⟩ := scheduleUpdates_session (S := S) u
  have hself : (Work.look fun s _ => .ok s).perform w = (.ok w.session, w) := rfl
  have hshut : (Work.modify fun s => { s with isOpen := false }).perform w = (.ok (), u) := rfl
  have houtcome : (scheduleUpdates S).outcome.perform u =
      (.ok ((scheduleUpdates S).perform u).1,
        { u with session := { u.session with queue := queue, choices := choices } }) := by
    rw [Act.perform_outcome, hscheduled]
  refine ⟨choices, ?_⟩
  rw [close, Act.perform_bind_of_ok hself, h, Bool.not_true, if_neg Bool.false_ne_true,
    Act.perform_bind_of_ok hshut, Act.perform_bind_of_ok houtcome]
  rfl

end Session

namespace World

variable {n : Nat} {w u v : World δ}

/-! ## What happens to one session -/

section Steps

variable [Database δ] [Callbacks δ] {e : Event} {s : Session}

/-- Whether a session is called, or asked by an association. -/
def Event.Concerns (n : Nat) : Event → Prop
  | called m _ _ => m = n
  | resolved _ (.unloaded _ _ supplier) _ => supplier.session? = some n
  | loaded ⟨_, .shared _ supplier⟩ _ => supplier.session? = some n
  | _ => False

/-- In a step of a program a session is called for something, or it keeps what is its own. -/
theorem Step.sessions (h : Step S w e v) (hs : w.sessions[n]? = some s) :
    (∃ choices held transaction, v.sessions[n]? =
      some { s with choices := choices, isHeld := held, transaction := transaction }) ∨
    ∃ (c : Session.Call) (r : Except Error (List InstanceId)) (y : Work δ),
      (c.act S).perform ⟨w.site, s⟩ = (r, y) ∧ v.sessions[n]? = some y.session := by
  have hw : w.work? n = some ⟨w.site, s⟩ := work?_eq_some.2 ⟨hs, rfl⟩
  have hkept (hv : v.sessions[n]? = some s) : ∃ choices held transaction, v.sessions[n]? =
      some { s with choices := choices, isHeld := held, transaction := transaction } :=
    ⟨s.choices, s.isHeld, s.transaction, hv⟩
  have hserved {u : World δ} {supplier : Supplier} {r : Except Error (List InstanceId)}
      (h : Served S w supplier r u) (hsessions : v.sessions = u.sessions) :
      v.sessions[n]? = some s ∨ ∃ (c : Session.Call) (r : Except Error (List InstanceId)) (y : Work δ),
        (c.act S).perform ⟨w.site, s⟩ = (r, y) ∧ v.sessions[n]? = some y.session := by
    rw [hsessions]
    refine (h.asked_or_kept hw).imp_right ?_
    rintro ⟨request, y, hy, rfl⟩
    exact ⟨.ask request, r, y, hy, (work?_eq_some.1 (work?_install_self hw)).1⟩
  cases h with
  | called m c h =>
    rcases (onSession_performs h).done_or_kept hw with hv | ⟨rfl, y, hact, rfl⟩
    · exact .inl (hkept hv)
    · exact .inr ⟨c, _, y, hact, (work?_eq_some.1 (work?_install_self hw)).1⟩
  | resolved place held hr h =>
    cases resolve_resolves h with
    | known => exact .inl (hkept hs)
    | failed hasked => exact (hserved hasked rfl).imp_left hkept
    | filled hasked => exact (hserved hasked (setLink_sessions ..)).imp_left hkept
  | loaded held c h =>
    cases load_loads h with
    | known => exact .inl (hkept hs)
    | failed hasked => exact (hserved hasked rfl).imp_left hkept
    | filled hasked => exact (hserved hasked rfl).imp_left hkept
  | opened connection showSql =>
    obtain ⟨hn, -⟩ := Array.getElem?_eq_some_iff.1 hs
    exact .inl (hkept ((Array.getElem?_push_lt hn).trans
      ((Array.getElem?_eq_getElem hn).symm.trans hs)))
  | elsewhere hheap hsize hsessions => exact .inl (hsessions n s hs)

/-- What a closed session has kept it keeps. -/
theorem Step.closed (h : Step S w e v) (hs : w.sessions[n]? = some s) (hclosed : s.isOpen = false) :
    ∃ s', v.sessions[n]? = some s' ∧ s'.isOpen = false ∧ s'.context = s.context ∧
      s'.queue = s.queue := by
  rcases h.sessions hs with ⟨choices, held, transaction, hv⟩ | ⟨c, r, y, hy, hv⟩
  · exact ⟨_, hv, hclosed, rfl, rfl⟩
  · have hsame : y = ⟨w.site, s⟩ := by
      by_cases hc : c = .close
      · subst hc
        rw [Session.Call.act, Act.perform_map, Session.close_of_closed hclosed] at hy
        exact (Prod.mk.inj hy).2.symm
      · rw [Session.act_of_closed hc hclosed] at hy
        exact (Prod.mk.inj hy).2.symm
    exact ⟨s, by rw [hv, hsame], hclosed, rfl, rfl⟩

/-- What a closed session has to do with leaves everything as it is. -/
theorem Step.silent (h : Step S w e v) (hw : Closed n w) (he : e.Concerns n) : v = w := by
  cases h with
  | called m c h =>
    obtain rfl : m = n := he
    by_cases hc : c = .close
    · subst hc
      obtain ⟨x, hx, hclosed⟩ := hw
      have hsame : (onSession m (Session.Call.close.act S)).perform w = (.ok [], w) := by
        refine onSession_same hx ?_
        rw [Session.Call.act, Act.perform_map, Session.close_of_closed hclosed]
        rfl
      exact congrArg Prod.snd (h.symm.trans hsame)
    · exact congrArg Prod.snd (h.symm.trans (call_refused hw hc))
  | @resolved place held r _ _ _ hr h =>
    cases r with
    | empty => cases he
    | loaded target => cases he
    | unloaded key known supplier =>
      cases known with
      | some result => exact congrArg Prod.snd (h.symm.trans (resolve_known rfl place held))
      | none =>
        have hasks : (Reference.unloaded key none supplier).Asks n := he
        exact congrArg Prod.snd (h.symm.trans (resolve_refused hw hasks place held))
  | loaded held c h =>
    cases hcurrent : c.current? w.site.heap.cells with
    | some items => exact congrArg Prod.snd (h.symm.trans (load_known hcurrent held))
    | none =>
      obtain ⟨distinct, contents⟩ := c
      cases contents with
      | own items => cases he
      | shared cell supplier =>
        have hasks : Collection.Asks n w.site.heap.cells ⟨distinct, .shared cell supplier⟩ :=
          ⟨distinct, cell, supplier, rfl, he, hcurrent⟩
        exact congrArg Prod.snd (h.symm.trans (load_refused hw hasks held))
  | opened => cases he
  | elsewhere => cases he

/-- A closed session stays closed. -/
theorem run_closed {trace : List (Moment δ)} (hrun : Run (Step S) w trace v)
    (hs : w.sessions[n]? = some s) (hclosed : s.isOpen = false) :
    ∃ s', v.sessions[n]? = some s' ∧ s'.isOpen = false ∧ s'.context = s.context ∧
      s'.queue = s.queue := by
  refine hrun.invariant (P := fun v : World δ => ∃ s', v.sessions[n]? = some s' ∧
    s'.isOpen = false ∧ s'.context = s.context ∧ s'.queue = s.queue) ?_ ⟨s, hs, hclosed, rfl, rfl⟩
  rintro m - hstep ⟨s', hs', hclosed', hcontext, hqueue⟩
  obtain ⟨s'', hs'', hclosed'', hcontext', hqueue'⟩ := hstep.closed hs' hclosed'
  exact ⟨s'', hs'', hclosed'', hcontext'.trans hcontext, hqueue'.trans hqueue⟩

/-- What every step keeps while a session is closed is kept once it is closed. -/
theorem run_keeps {P : World δ → Prop} {trace : List (Moment δ)} (hrun : Run (Step S) w trace v)
    (hw : Closed n w)
    (hP : ∀ m ∈ trace, Step S m.before m.event m.after → Closed n m.before → P m.before → P m.after)
    (hs : P w) : P v := by
  have hkept : Closed n v ∧ P v := by
    refine hrun.invariant (P := fun u : World δ => Closed n u ∧ P u) ?_ ⟨hw, hs⟩
    rintro m hm hstep ⟨hclosed, hp⟩
    refine ⟨?_, hP m hm hstep hclosed hp⟩
    obtain ⟨x, hx, hopen⟩ := hclosed
    obtain ⟨s, hs, hsclosed, -⟩ := hstep.closed (work?_eq_some.1 hx).1 hopen
    exact ⟨⟨_, s⟩, work?_eq_some.2 ⟨hs, rfl⟩, hsclosed⟩
  exact hkept.2

/-- A session of a program is whom its instances ask. -/
theorem Reachable.loader (hw : Reachable S w) (hs : w.sessions[n]? = some s) :
    s.loader = .session n := by
  obtain ⟨outside, trace, hrun⟩ := hw
  refine hrun.invariant
    (P := fun v : World δ => ∀ s, v.sessions[n]? = some s → s.loader = .session n) ?_ nofun s hs
  intro m _ hstep hbefore s hs
  cases hm : m.before.sessions[n]? with
  | none =>
    have hnone : m.before.work? n = none := by rw [work?, hm, Option.map_none]
    obtain ⟨g, hg⟩ := hstep.new hnone (work?_eq_some.2 ⟨hs, rfl⟩ : m.after.work? n = some ⟨_, s⟩)
    rw [(Work.mk.inj hg).2]
    rfl
  | some s₀ =>
    have hloader := hbefore s₀ hm
    rcases hstep.sessions hm with ⟨choices, held, transaction, hv⟩ | ⟨c, r, y, hy, hv⟩
    · rw [hs, Option.some.injEq] at hv
      rw [hv]
      exact hloader
    · rw [hs, Option.some.injEq] at hv
      obtain rfl := congrArg Prod.snd hy
      rw [hv]
      refine (Session.act_change (S := S) c _).invariant
        (P := fun x : Work δ => x.session.loader = .session n) ?_ hloader
      intro x y h hx
      cases h with
      | growth h => cases h <;> exact hx
      | _ => exact hx

/-! ## What is said -/

theorem Served.speaks {w u : World (Overheard δ)} {supplier : Supplier}
    {r : Except Error (List InstanceId)} (h : Served S w supplier r u)
    (hs : supplier.session? = some n) : Site.Speaks w.site u.site := by
  cases h with
  | outside hnone =>
    rw [hnone] at hs
    cases hs
  | refused => exact .refl _
  | asked hx h =>
    obtain rfl := congrArg Prod.snd h
    rw [(work?_eq_some.1 hx).2]
    exact Session.act_speaks (c := .ask _) nofun _

/-- What a session has to do with says nothing but statements, unless it is closed by that. -/
theorem Step.speaks {w v : World (Overheard δ)} (h : Step S w e v) (he : e.Concerns n)
    (hv : ¬Closed n v) : Site.Speaks w.site v.site := by
  cases h with
  | called m c h =>
    obtain rfl : m = n := he
    cases onSession_performs h with
    | missing => exact .refl _
    | @done x y _ hx hact =>
      obtain rfl := congrArg Prod.snd hact
      by_cases hc : c = .close
      · subst hc
        refine absurd ⟨_, work?_install_self hx, ?_⟩ hv
        rw [Session.Call.act, Act.perform_map]
        cases hopen : x.session.isOpen with
        | false =>
          rw [Session.close_of_closed hopen]
          exact hopen
        | true =>
          obtain ⟨choices, hclosed⟩ := Session.close_open (S := S) hopen
          rw [hclosed]
      · rw [(work?_eq_some.1 hx).2]
        exact Session.act_speaks hc x
  | @resolved place held r _ _ _ hr h =>
    cases resolve_resolves h with
    | known => exact .refl _
    | failed hserved => exact hserved.speaks he
    | @filled _ _ _ u hserved =>
      have hsaid : Site.Speaks w.site u.site := hserved.speaks he
      cases place with
      | field i name => exact hsaid
      | loose name => exact hsaid
  | loaded held c h =>
    cases load_loads h with
    | known => exact .refl _
    | failed hserved => exact hserved.speaks he
    | filled hserved =>
      have hsaid := hserved.speaks he
      exact hsaid
  | opened => cases he
  | elsewhere => cases he

end Steps

end World

/-! ## What stays as it was

An association value is replaced by what was loaded into it, and by nobody else but the program. -/

/-- The results of loads are kept. -/
def Heap.KeepsCells (h h' : Heap) : Prop :=
  ∀ (cell : CellId) (items : Option (List InstanceId)), h.cells[cell]? = some items →
    h'.cells[cell]? = some items

theorem Heap.KeepsCells.refl (h : Heap) : h.KeepsCells h := fun _ _ hcell => hcell

theorem Heap.KeepsCells.trans {h h' h'' : Heap} (hh : h.KeepsCells h') (hh' : h'.KeepsCells h'') :
    h.KeepsCells h'' :=
  fun cell items hcell => hh' cell items (hh cell items hcell)

/-- Cells are reserved behind those that there are. -/
theorem Heap.hydrate_keepsCells {h h' : Heap} {loader : Loader} {entity : String} {row : Row}
    {i : InstanceId} (hh : h.hydrate S loader entity row = .ok (i, h')) : h.KeepsCells h' := by
  rw [hydrate] at hh
  obtain ⟨m, -, hh⟩ := bind_eq_ok.1 hh
  obtain ⟨record, -, hh⟩ := bind_eq_ok.1 hh
  cases hh
  intro cell items hcell
  obtain ⟨hlt, -⟩ := Array.getElem?_eq_some_iff.1 hcell
  exact (Array.getElem?_append_left hlt).trans hcell

theorem Site.Change.keepsCells [Database δ] [Callbacks δ] {s t : Site δ} (h : Site.Change S s t) :
    s.heap.KeepsCells t.heap := by
  cases h with
  | growth h =>
    cases h with
    | called => exact .refl _
    | noted => exact .refl _
    | hydrated h => exact Heap.hydrate_keepsCells h
  | identified _ h =>
    obtain ⟨x, record, -, -, rfl⟩ := Heap.set_eq_ok h
    exact .refl _

theorem Act.Via.keepsCells [Database δ] [Callbacks δ] {α : Type} {x : Act (Work δ) α} {w : Work δ}
    (h : x.Via (Work.Change S) w) : w.site.heap.KeepsCells (x.perform w).2.site.heap := by
  refine h.invariant (P := fun v : Work δ => w.site.heap.KeepsCells v.site.heap) ?_ (.refl _)
  intro v u hstep hv
  cases hstep with
  | growth hgrowth =>
    cases hgrowth with
    | site hsite => exact hv.trans (Site.Change.growth hsite).keepsCells
    | tracked => exact hv
  | site hsite => exact hv.trans hsite.keepsCells
  | _ => exact hv

namespace World

/-- An association value is put at its own place. -/
theorem link?_setLink_ne {place other : Place} (hne : other ≠ place) (l : Link) (w : World δ) :
    (w.setLink other l).link? place = w.link? place := by
  cases other with
  | field i name =>
    cases place with
    | loose => rfl
    | field j other =>
      refine (congrArg (·.bind fun x => x.record.link? other)
        (Heap.setLink_getElem? w.site.heap i j name l)).trans ?_
      split
      · next hij =>
        subst hij
        have hname : name ≠ other := fun h => hne (h ▸ rfl)
        rw [link?, Heap.link?]
        cases w.site.heap.instances[i]? with
        | none => rfl
        | some x =>
          rw [Option.map_some, Option.bind_some, Option.bind_some, Record.link?_setLink, if_neg hname]
      · rfl
  | loose name =>
    cases place with
    | field => rfl
    | loose other =>
      have hname : name ≠ other := fun h => hne (h ▸ rfl)
      have hbeq : (other == name) = false := by simpa using hname.symm
      change List.lookup other (if (w.loose.lookup name).isSome then Record.replace name l w.loose
        else w.loose ++ [(name, l)]) = List.lookup other w.loose
      split
      · rw [Record.lookup_replace, if_neg hname]
      · rw [List.lookup_append, List.lookup_cons, hbeq, List.lookup_nil, Option.or_none]

variable [Database δ] [Callbacks δ] {n : Nat} {w u v : World δ} {e : Event}

theorem Served.keepsCells {supplier : Supplier} {r : Except Error (List InstanceId)}
    (h : Served S w supplier r u) : w.site.heap.KeepsCells u.site.heap := by
  cases h with
  | outside => exact .refl _
  | refused => exact .refl _
  | asked hx h =>
    obtain rfl := congrArg Prod.snd h
    rw [(work?_eq_some.1 hx).2]
    exact (Session.act_change (S := S) (.ask _) _).keepsCells

theorem Served.link? {supplier : Supplier} {r : Except Error (List InstanceId)} {place : Place}
    {l : Link} (h : Served S w supplier r u) (hl : w.link? place = some l) :
    u.link? place = some l := by
  cases place with
  | field i name => exact h.extends.link? hl
  | loose name =>
    cases h with
    | outside => exact hl
    | refused => exact hl
    | asked => exact hl

/-- A reference that is loaded, or that asks a closed session, stays what it is, unless somebody else
replaces it. -/
theorem Step.reference {place : Place} {held : String} {r : Reference} (h : Step S w e v)
    (hw : Closed n w) (hl : w.link? place = some (.reference held r))
    (hr : r.isLoaded = true ∨ r.Asks n) (hleft : ¬e.IsRead → v.link? place = w.link? place) :
    v.link? place = some (.reference held r) := by
  by_cases he : e.IsRead
  case neg => rw [hleft he, hl]
  cases h with
  | called m c h =>
    cases onSession_performs h with
    | missing => exact hl
    | @done x y _ hx hact =>
      obtain rfl := congrArg Prod.snd hact
      have hextends : w.site.heap.Extends ((c.act S).perform x).2.site.heap := by
        rw [(work?_eq_some.1 hx).2]
        exact (act_growth (S := S) he x).grows.heap
      cases place with
      | field i name => exact hextends.link? hl
      | loose name => exact hl
  | @resolved other held' r' _ _ _ hr' h =>
    by_cases hplace : other = place
    · subst hplace
      have hsame : v = w := by
        rw [hl, Option.some.injEq, Link.reference.injEq] at hr'
        obtain ⟨rfl, rfl⟩ := hr'
        rcases hr with hloaded | hasks
        · obtain ⟨result, hresult⟩ := Option.isSome_iff_exists.1 hloaded
          exact congrArg Prod.snd (h.symm.trans (resolve_known hresult other held))
        · exact congrArg Prod.snd (h.symm.trans (resolve_refused hw hasks other held))
      rw [hsame, hl]
    · cases resolve_resolves h with
      | known => exact hl
      | failed hserved => exact hserved.link? hl
      | filled hserved => rw [link?_setLink_ne hplace, hserved.link? hl]
  | loaded held' c h =>
    cases load_loads h with
    | known => exact hl
    | failed hserved => exact hserved.link? hl
    | filled hserved =>
      have hu := hserved.link? hl
      cases place with
      | field i name => exact hu
      | loose name => exact hu
  | opened => cases he
  | elsewhere => cases he

/-- A cell that is filled, or that is loaded by asking a closed session only, stays what it is, unless
somebody else changes it. -/
theorem Step.cell {cell : CellId} {items : Option (List InstanceId)} (h : Step S w e v)
    (hw : Closed n w) (hcell : w.site.heap.cells[cell]? = some items)
    (hasks : items = none → ∀ distinct supplier answer,
      e = .loaded (.lazy distinct cell supplier) answer → supplier.session? = some n)
    (hleft : e = .elsewhere → v.site.heap.cells[cell]? = w.site.heap.cells[cell]?) :
    v.site.heap.cells[cell]? = some items := by
  cases h with
  | called m c h =>
    cases onSession_performs h with
    | missing => exact hcell
    | @done x y _ hx hact =>
      obtain rfl := congrArg Prod.snd hact
      rw [(work?_eq_some.1 hx).2] at hcell
      exact (Session.act_change (S := S) c x).keepsCells cell items hcell
  | resolved place held hr h =>
    cases resolve_resolves h with
    | known => exact hcell
    | failed hserved => exact hserved.keepsCells cell items hcell
    | filled hserved =>
      have hu := hserved.keepsCells cell items hcell
      cases place with
      | field i name => exact hu
      | loose name => exact hu
  | loaded held c h =>
    cases hcurrent : c.current? w.site.heap.cells with
    | some known =>
      obtain rfl := congrArg Prod.snd (h.symm.trans (load_known hcurrent held))
      exact hcell
    | none =>
      cases load_loads h with
      | known hknown =>
        rw [hcurrent] at hknown
        cases hknown
      | failed hserved => exact hserved.keepsCells cell items hcell
      | @filled distinct other supplier found u hserved =>
        by_cases hother : other = cell
        · subst hother
          -- nobody but the closed session would be asked, and it has not answered
          have hnone : items = none := by
            have hjoin : (w.site.heap.cells[other]?).join = none := hcurrent
            rwa [hcell] at hjoin
          have hrefused := load_refused (S := S) hw
            ⟨distinct, other, supplier, rfl, hasks hnone _ _ _ rfl, hcurrent⟩ held
          cases congrArg Prod.fst (h.symm.trans hrefused)
        · exact (Array.getElem?_setIfInBounds_ne hother).trans
            (hserved.keepsCells cell items hcell)
  | opened => exact hcell
  | elsewhere => rw [hleft rfl, hcell]

/-! ## Closing is final -/

/-- What holds of a world in which a session is closed. -/
structure Shut (S : Schema) (n : Nat) (w : World δ) : Prop where
  /-- Nothing is tracked, and nothing waits. -/
  emptied : ∃ s, w.sessions[n]? = some s ∧ s.isOpen = false ∧ s.context = .empty ∧ s.queue = .empty
  /-- The session refuses everything but to be closed once more. -/
  calls : ∀ c ≠ Session.Call.close, Refused (onSession n (c.act S)) w
  /-- To be closed once more means nothing. -/
  closing : (onSession n (Session.close S)).perform w = (.ok (), w)
  /-- Its transactions neither begin nor commit. -/
  transactions : ∀ t tx, w.transactions[t]? = some tx → tx.session = n →
    Refused (onTransaction t Transaction.begin) w ∧ Refused (onTransaction t Transaction.commit) w
  /-- A reference that it has bound and that is not loaded is not loaded now. -/
  references : ∀ r : Reference, r.Asks n → ∀ place held, Refused (resolve S place held r) w
  /-- Nor is a collection, be it read or changed. -/
  collections : ∀ c : Collection, c.Asks n w.site.heap.cells → ∀ held,
    Refused (load S held c) w ∧ ∀ (place : Place) {β : Type}
      (change : List InstanceId → List InstanceId × β), Refused (alter S place held c change) w
  /-- A reference that is loaded has its target as before. -/
  loadedReferences : ∀ (r : Reference) result, r.result? = some result → ∀ place held,
    (resolve S place held r).perform w = (.ok result, w)
  /-- A collection that is loaded has its elements as before. -/
  loadedCollections : ∀ (c : Collection) items, c.current? w.site.heap.cells = some items → ∀ held,
    (load S held c).perform w = (.ok items, w)

theorem shut_of_closed {s : Session} (hs : w.sessions[n]? = some s) (hclosed : s.isOpen = false)
    (hcontext : s.context = .empty) (hqueue : s.queue = .empty) : Shut S n w := by
  have hx : w.work? n = some ⟨w.site, s⟩ := work?_eq_some.2 ⟨hs, rfl⟩
  have hw : Closed n w := ⟨_, hx, hclosed⟩
  exact {
    emptied := ⟨s, hs, hclosed, hcontext, hqueue⟩
    calls := fun c hc => call_refused hw hc
    closing := onSession_same hx (Session.close_of_closed hclosed)
    transactions := fun t tx ht hn =>
      ⟨onTransaction_refused hw ht hn fun _ => rfl, onTransaction_refused hw ht hn fun _ => rfl⟩
    references := fun r hr place held => resolve_refused hw hr place held
    collections := fun c hc held =>
      ⟨load_refused hw hc held, fun _ _ _ => (load_refused hw hc held).bind _⟩
    loadedReferences := fun r result hr place held => resolve_known hr place held
    loadedCollections := fun c items hc held => load_known hc held }

/-- What is to be said of the life of a session that is closed at a moment: what it does before that,
what it does then, and what it does ever after. -/
structure ClosedForGood (S : Schema) (n : Nat) (connection : ConnectionId)
    (old : List (Moment (Overheard δ))) (d : Moment (Overheard δ))
    (since : List (Moment (Overheard δ))) : Prop where
  /-- Its instances asked itself. -/
  binds : ∀ s, d.before.sessions[n]? = some s → s.loader = .session n
  /-- Until then it sent statements only. -/
  spoke : ∀ m ∈ old, m.event.Concerns n → Site.Speaks m.before.site m.after.site
  /-- When it is closed it says so to its connection and says nothing else. -/
  said : d.after.site.outside.said = d.before.site.outside.said ++ [.close connection]
  /-- Nothing is written, not even a line of the log. -/
  untouched : d.after.site.heap = d.before.site.heap ∧ d.after.site.log = d.before.site.log
  /-- From then on it is closed. -/
  shut : ∀ m ∈ d :: since, Shut S n m.after
  /-- Nothing comes of anything it has to do with, and it does not say a word. -/
  silent : ∀ m ∈ since, m.event.Concerns n → m.after = m.before
  /-- A reference that was loaded then stays loaded, and one that was not stays unloaded, as long as
  nobody else replaces it. -/
  references : ∀ first m last, since = first ++ m :: last → ∀ place held r,
    d.after.link? place = some (.reference held r) → (r.isLoaded = true ∨ r.Asks n) →
      (∀ m' ∈ first ++ [m], ¬m'.event.IsRead → m'.after.link? place = m'.before.link? place) →
        m.after.link? place = some (.reference held r)
  /-- So does what collections share, as long as nobody else changes it or has it loaded. -/
  cells : ∀ first m last, since = first ++ m :: last → ∀ cell items,
    d.after.site.heap.cells[cell]? = some items →
      (items = none → ∀ m' ∈ first ++ [m], ∀ distinct supplier answer,
        m'.event = .loaded (.lazy distinct cell supplier) answer → supplier.session? = some n) →
      (∀ m' ∈ first ++ [m], m'.event = .elsewhere →
        m'.after.site.heap.cells[cell]? = m'.before.site.heap.cells[cell]?) →
        m.after.site.heap.cells[cell]? = some items

/-- What becomes of a world in which an open session is closed. -/
theorem close_closes {w v : World (Overheard δ)} {answer : Except Error (List InstanceId)}
    {x : Work (Overheard δ)} (h : Step S w (.called n .close answer) v) (hx : w.work? n = some x)
    (hopen : x.session.isOpen = true) :
    (∃ s, v.sessions[n]? = some s ∧ s.isOpen = false ∧ s.context = .empty ∧ s.queue = .empty) ∧
      v.site.outside.said = w.site.outside.said ++ [.close x.session.gateway.connection] ∧
        v.site.heap = w.site.heap ∧ v.site.log = w.site.log := by
  cases h with
  | called _ _ h =>
    cases onSession_performs h with
    | missing hnone =>
      rw [hx] at hnone
      cases hnone
    | @done x' y _ hx' hact =>
      rw [hx, Option.some.injEq] at hx'
      subst hx'
      obtain ⟨choices, hclosed⟩ := Session.close_open (S := S) hopen
      obtain ⟨_, hact, -⟩ := Act.perform_map_eq hact
      obtain rfl : _ = y := hclosed.symm.trans (congrArg Prod.snd hact)
      rw [(work?_eq_some.1 hx).2]
      exact ⟨⟨_, (work?_eq_some.1 (work?_install_self hx)).1, rfl, rfl, rfl⟩, rfl, rfl, rfl⟩

/-- Closing a session is final: it has closed its connection once, writes nothing, and never does
anything again. -/
theorem closed_for_good {outside : Overheard δ} {v : World (Overheard δ)}
    {old since : List (Moment (Overheard δ))} {d : Moment (Overheard δ)}
    (hrun : Run (Step S) (start outside) (old ++ d :: since) v)
    {answer : Except Error (List InstanceId)} (hd : d.event = .called n .close answer)
    {x : Work (Overheard δ)} (hx : d.before.work? n = some x) (hopen : x.session.isOpen = true) :
    ClosedForGood S n x.session.gateway.connection old d since := by
  obtain ⟨hold, hstep, hsince⟩ := hrun.split
  obtain ⟨⟨s, hs, hclosed, hcontext, hqueue⟩, hsaid, huntouched⟩ := close_closes (hd ▸ hstep) hx hopen
  have hshut : Closed n d.after := ⟨⟨_, s⟩, work?_eq_some.2 ⟨hs, rfl⟩, hclosed⟩
  -- whatever happens later, the session is what closing has left
  have hlater {first last : List (Moment (Overheard δ))} {m : Moment (Overheard δ)}
      (hsplit : since = first ++ m :: last) : Run (Step S) d.after first m.before ∧
        Step S m.before m.event m.after ∧ Closed n m.before := by
    rw [hsplit] at hsince
    obtain ⟨hfirst, hm, -⟩ := hsince.split
    obtain ⟨s', hs', hclosed', -⟩ := run_closed hfirst hs hclosed
    exact ⟨hfirst, hm, ⟨_, s'⟩, work?_eq_some.2 ⟨hs', rfl⟩, hclosed'⟩
  refine ⟨?binds, ?spoke, hsaid, huntouched, ?shut, ?silent, ?references, ?cells⟩
  case binds => exact fun s hs => Reachable.loader ⟨outside, old, hold⟩ hs
  case spoke =>
    intro m hm hconcerns
    obtain ⟨first, last, rfl⟩ := List.append_of_mem hm
    obtain ⟨-, hmoment, hlast⟩ := hold.split
    refine hmoment.speaks hconcerns ?_
    rintro ⟨y, hy, hyclosed⟩
    obtain ⟨s', hs', hclosed', -⟩ := run_closed hlast (work?_eq_some.1 hy).1 hyclosed
    rw [(work?_eq_some.1 hx).1, Option.some.injEq] at hs'
    rw [← hs', hopen] at hclosed'
    cases hclosed'
  case shut =>
    intro m hm
    rcases List.mem_cons.1 hm with rfl | hm
    · exact shut_of_closed hs hclosed hcontext hqueue
    · obtain ⟨first, last, hsplit⟩ := List.append_of_mem hm
      obtain ⟨hfirst, hmoment, -⟩ := hlater hsplit
      obtain ⟨s', hs', hclosed', hcontext', hqueue'⟩ :=
        run_closed (hfirst.trans (.single hmoment)) hs hclosed
      exact shut_of_closed hs' hclosed' (hcontext'.trans hcontext) (hqueue'.trans hqueue)
  case silent =>
    intro m hm hconcerns
    obtain ⟨first, last, hsplit⟩ := List.append_of_mem hm
    obtain ⟨-, hmoment, hbefore⟩ := hlater hsplit
    exact hmoment.silent hbefore hconcerns
  case references =>
    intro first m last hsplit place held r hl hr hleft
    obtain ⟨hfirst, hmoment, -⟩ := hlater hsplit
    refine run_keeps (P := fun w => w.link? place = some (.reference held r))
      (hfirst.trans (.single hmoment)) hshut ?_ hl
    exact fun m' hm' hstep' hw hl => hstep'.reference hw hl hr (hleft m' hm')
  case cells =>
    intro first m last hsplit cell items hcell hasks hleft
    obtain ⟨hfirst, hmoment, -⟩ := hlater hsplit
    refine run_keeps (P := fun w => w.site.heap.cells[cell]? = some items)
      (hfirst.trans (.single hmoment)) hshut ?_ hcell
    exact fun m' hm' hstep' hw hcell =>
      hstep'.cell hw hcell (fun hnone => hasks hnone m' hm') (hleft m' hm')

end World

/-! ## A door that jams

A session in which a note waits is closed, and its connection fails to close. -/

namespace Notes

/-- A connection that fails to close. -/
def jammed : Overheard Rehearsal.Scene :=
  let connection := { Rehearsal.ScriptedConnection.start "notes" with failing := [.close] }
  ⟨{ Rehearsal.Scene.empty with connections := #[.scripted connection] }, []⟩

/-- A session is opened over the connection. -/
def entered : World (Overheard Rehearsal.Scene) :=
  ((World.openSession 0 false).perform (World.start jammed)).2

/-- The note that somebody wants to read later. -/
def postponed : Reference :=
  .unloaded (.bigInt 7) none
    (.request "Reader" "postponed" (.session 0) (.byKey "Note" (.bigInt 7)))

/-- There are notes, and one that is to be loaded on first access. -/
def furnished : World (Overheard Rehearsal.Scene) :=
  { entered with
    site := { entered.site with heap := site.heap }
    loose := [("postponed", .reference "Note" postponed)] }

/-- The session is called for something. -/
def visit (c : Session.Call) (w : World (Overheard Rehearsal.Scene)) :
    World.Moment (Overheard Rehearsal.Scene) :=
  let result := (World.onSession 0 (c.act schema)).perform w
  ⟨w, .called 0 c result.1, result.2⟩

/-- The first note is made persistent. -/
def written : World.Moment (Overheard Rehearsal.Scene) := visit (.persist 0) furnished

/-- The session is closed. -/
def departure : World.Moment (Overheard Rehearsal.Scene) := visit .close written.after

/-- The note is loaded. -/
def reopening : Except Error (Option InstanceId) × World (Overheard Rehearsal.Scene) :=
  (World.resolve schema (.loose "postponed") "Note" postponed).perform departure.after

/-- The session is closed with an insert in its queue; that its connection has not closed is reported,
and changes nothing. -/
theorem closed_for_good_jammed : ∃ answer, departure.event = .called 0 .close answer ∧
    answer.isOk = false ∧ World.ClosedForGood schema 0 0
      [⟨World.start jammed, .opened, entered⟩, ⟨entered, .elsewhere, furnished⟩, written] departure
      [⟨departure.after, .resolved (.loose "postponed") postponed reopening.1, reopening.2⟩] := by
  have hrun : Run (World.Step schema) (World.start jammed)
      ([⟨World.start jammed, .opened, entered⟩, ⟨entered, .elsewhere, furnished⟩, written] ++
        departure :: [⟨departure.after, .resolved (.loose "postponed") postponed reopening.1,
          reopening.2⟩]) reopening.2 := by
    refine .cons (.opened 0 false _) (.cons (.elsewhere nofun rfl ?_) ?_)
    · exact fun n s hs => ⟨s.choices, s.isHeld, s.transaction, hs⟩
    · refine .cons (.called 0 _ rfl) (.cons (.called 0 _ rfl) ?_)
      exact .cons (.resolved _ "Note" rfl rfl) (.nil _)
  have hwork : (departure.before.work? 0).map
      (fun x => (x.session.isOpen, x.session.gateway.connection)) = some (true, 0) := by
    decide +kernel
  obtain ⟨x, hx, hsession⟩ := Option.map_eq_some_iff.1 hwork
  obtain ⟨hopen, hconnection⟩ := Prod.mk.inj hsession
  have hfinal := World.closed_for_good hrun rfl hx hopen
  rw [hconnection] at hfinal
  exact ⟨_, rfl, by decide +kernel, hfinal⟩

end Notes

end EntitySession
