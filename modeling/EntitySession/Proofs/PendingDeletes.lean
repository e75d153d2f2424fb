import EntitySession.Proofs.IdentityMap
import EntitySession.Proofs.Persistence

/-!
# What a deleted key leads to

To delete an instance is to forget it and to let a delete wait.  Nobody who looks for an instance looks
at what waits: finding and loading ask the context, and then the database, where the row is until the
flush.  So a session that has deleted a key finds it again, and tracks another instance under it, as
soon as a row comes back: `Notes.resurrected`.

What can be said is that the row is needed.  Until an instance with the key is made persistent again,
the session yields one, or tracks one, only if its row has come back in a statement that was sent since
the delete; the session itself has forgotten it, and what waits or was flushed makes no difference.
This is `World.deleted_fetched`.
-/

set_option autoImplicit false

namespace EntitySession

variable {δ : Type} {S : Schema}

namespace Session

/-! ## Calls that track a key -/

section Calls

variable {k : EntityKey} {i l : InstanceId}

/-- To make an instance persistent tracks nothing if it fails. -/
theorem persist_error [Database δ] {w v : Work δ} {e : Error}
    (h : (persist S i).perform w = (.error e, v)) : v.session.context = w.session.context := by
  cases persist_rejects h <;> rfl

/-- To make an instance persistent tracks no key but its own. -/
theorem persist_context [Database δ] {w v : Work δ} {r : Except Error Unit}
    (h : (persist S i).perform w = (r, v)) (hl : v.session.context.get? k = some l) :
    w.session.context.get? k = some l ∨
      r = .ok () ∧ ∃ j, v.site.heap.key S i = .ok j ∧ (j == k) = true := by
  cases r with
  | error e => exact .inl (persist_error h ▸ hl)
  | ok u =>
    obtain ⟨-, hregisters⟩ := persist_ok h
    cases hregisters with
    | generated hid hsave hput =>
      exact (Context.get?_put hput hl).imp_right fun hown => ⟨rfl, hown.2⟩
    | known => exact .inl hl
    | waiting hj hn hc hput =>
      exact (Context.get?_put hput hl).imp_right fun hown => ⟨rfl, hown.2⟩

variable [Database δ] [Callbacks δ] {w v : Work (Recorded δ)}

/-- A key that a call tracks is that of an instance that was made persistent, or its row came back. -/
theorem call_tracked {c : Call} {r : Except Error (List InstanceId)}
    (h : (c.act S).perform w = (r, v)) (hl : v.session.context.get? k = some l) :
    w.session.context.get? k = some l ∨
      (∃ x ∈ sentBetween w v, x.Fetches S w.session.gateway.connection k) ∨
        ∃ i is, c = .persist i ∧ r = .ok is ∧
          ∃ j, v.site.heap.key S i = .ok j ∧ (j == k) = true := by
  cases c with
  | find entity id =>
    obtain ⟨_, h, -⟩ := Act.perform_map_eq h
    obtain rfl := congrArg Prod.snd h
    exact (findById_fetched entity id w k l hl).imp_right .inl
  | ask request =>
    obtain rfl := congrArg Prod.snd h
    exact (askSession_fetched request w k l hl).imp_right .inl
  | persist i =>
    obtain ⟨_, hpersist, rfl⟩ := Act.perform_map_eq h
    rcases persist_context hpersist hl with htracked | ⟨rfl, hkey⟩
    · exact .inl htracked
    · exact .inr (.inr ⟨i, [], rfl, rfl, hkey⟩)
  | delete i =>
    obtain ⟨r, h, -⟩ := Act.perform_map_eq h
    cases r with
    | error e =>
      rw [delete_error h]
      exact .inl hl
    | ok u =>
      obtain ⟨j, -, -, rfl⟩ := delete_ok h
      have hl : (w.session.context.remove j).get? k = some l := hl
      rw [Context.get?_remove] at hl
      split at hl
      · cases hl
      · exact .inl hl
  | flush =>
    obtain ⟨_, h, -⟩ := Act.perform_map_eq h
    obtain rfl := congrArg Prod.snd h
    exact .inl ((congrArg (·.get? k) (flush_instances w)).symm.trans hl)
  | close =>
    obtain ⟨_, h, -⟩ := Act.perform_map_eq h
    obtain rfl := congrArg Prod.snd h
    rcases close_closed (S := S) w with ⟨-, hsame⟩ | ⟨hempty, -⟩
    · rw [← hsame] at hl
      exact .inl hl
    · rw [hempty] at hl
      cases hl

end Calls

/-! ## What a session answers -/

/-- An instance that a session answers with is tracked, or it was made of a row that came back. -/
def Answers (S : Schema) (w v : Work (Recorded δ)) (i : InstanceId) : Prop :=
  (∃ k, v.session.context.get? k = some i) ∨ ∃ x ∈ sentBetween w v,
    ∀ k, KeysOf S v.site.heap [i] k → x.Fetches S w.session.gateway.connection k

theorem adopt_answers {w v : Work δ} {k : EntityKey} {i l : InstanceId}
    (h : (adopt S k l).perform w = (.ok i, v)) : v.session.context.get? k = some i ∨ i = l := by
  obtain ⟨found, u, hu, h⟩ := Act.perform_bind_ok.1 h
  obtain ⟨hfound, rfl⟩ := Prod.mk.inj hu
  cases found with
  | some tracked =>
    cases h
    exact .inl (Except.ok.inj hfound)
  | none =>
    obtain ⟨_, u, -, h⟩ := Act.perform_bind_ok.1 h
    obtain ⟨hi, rfl⟩ := Prod.mk.inj h
    have hi : (u.session.context.get? k).getD l = i := Except.ok.inj hi
    cases hk : u.session.context.get? k with
    | none =>
      rw [hk] at hi
      exact .inr hi.symm
    | some tracked =>
      rw [hk] at hi
      exact .inl (congrArg some hi)

theorem adoptAll_answers [Database δ] [Callbacks δ] {w v : Work δ} {ls is : List InstanceId}
    (h : (adoptAll S ls).perform w = (.ok is, v)) :
    ∀ i ∈ is, (∃ k, v.session.context.get? k = some i) ∨ i ∈ ls := by
  induction ls generalizing w is with
  | nil =>
    cases h
    exact fun _ hi => nomatch hi
  | cons l rest ih =>
    obtain ⟨k, u, hu, h⟩ := Act.perform_bind_ok.1 h
    obtain ⟨-, rfl⟩ := Prod.mk.inj hu
    obtain ⟨i, u, hi, h⟩ := Act.perform_bind_ok.1 h
    obtain ⟨is, u', his, h⟩ := Act.perform_bind_ok.1 h
    cases h
    have hgrows := (adoptAll_growth (S := S) rest u).grows
    rw [his] at hgrows
    refine List.forall_mem_cons.2 ⟨?_, fun j hj => ?_⟩
    · rcases adopt_answers hi with htracked | rfl
      · exact .inl ⟨k, hgrows.context.get? k i htracked⟩
      · exact .inr List.mem_cons_self
    · exact (ih his j hj).imp_right (List.mem_cons_of_mem l)

variable {w v : Work (Recorded δ)} {i : InstanceId}

/-- Rows were asked for, and each instance of the answer is tracked or was made of one. -/
theorem answers_of_adopted {t : Site (Recorded δ)} {loaded : List InstanceId} {x : Exchange}
    (hx : t.outside.exchanges = w.site.outside.exchanges ++ [x])
    (hkeys : ∀ k, KeysOf S t.heap loaded k → x.Fetches S w.session.gateway.connection k)
    (hsite : v.site = t) (hi : (∃ k, v.session.context.get? k = some i) ∨ i ∈ loaded) :
    Answers S w v i := by
  refine hi.imp_right fun hmem => ⟨x, ?_, fun k hk => hkeys k ?_⟩
  · have hsent : v.site.outside.exchanges = w.site.outside.exchanges ++ [x] ++ [] := by
      rw [hsite, hx, List.append_nil]
    exact mem_sentBetween hsent (List.mem_singleton_self x)
  · obtain ⟨j, hj, hkey⟩ := hk
    obtain rfl := List.mem_singleton.1 hj
    exact ⟨j, hmem, hsite ▸ hkey⟩

variable [Database δ]

theorem find_answers {entity : String} {id : Value}
    (h : (find S entity id).perform w = (.ok (some i), v)) : Answers S w v i := by
  obtain ⟨_, u, hu, h⟩ := Act.perform_bind_ok.1 h
  obtain ⟨-, rfl⟩ := ensureOpen_ok hu
  obtain ⟨k, u, hu, h⟩ := Act.perform_bind_ok.1 h
  obtain ⟨-, rfl⟩ := Prod.mk.inj hu
  obtain ⟨found, u, hu, h⟩ := Act.perform_bind_ok.1 h
  obtain ⟨hfound, rfl⟩ := Prod.mk.inj hu
  cases found with
  | some tracked =>
    cases h
    exact .inl ⟨k, Except.ok.inj hfound⟩
  | none =>
    obtain ⟨s, u, hu, h⟩ := Act.perform_bind_ok.1 h
    cases hu
    obtain ⟨loaded, u, hu, h⟩ := Act.perform_bind_ok.1 h
    obtain ⟨t, ht, rfl⟩ := Work.perform_onSite_ok.1 hu
    cases loaded with
    | none => cases h
    | some l =>
      obtain ⟨l', hadopt, hl'⟩ := Act.perform_map_ok.1 h
      rw [Option.some.injEq] at hl'
      subst hl'
      obtain ⟨x, hx, hkeys⟩ := Gateway.findById_ok ht
      have hsite := (adopt_tracks (S := S) k l { w with site := t }).site
      rw [hadopt] at hsite
      refine answers_of_adopted hx hkeys hsite ?_
      exact (adopt_answers hadopt).imp (⟨k, ·⟩) List.mem_singleton.2

theorem findById_answers {entity : String} {id : Value}
    (h : (findById S entity id).perform w = (.ok (some i), v)) : Answers S w v i := by
  obtain ⟨found, u, hu, h⟩ := Act.perform_bind_ok.1 h
  cases found with
  | none => cases h
  | some l =>
    obtain ⟨_, u', hu', h⟩ := Act.perform_bind_ok.1 h
    cases hu'
    split at h
    · cases h
      exact find_answers hu
    · cases h

theorem askSession_answers [Callbacks δ] {request : Request} {is : List InstanceId}
    (h : (World.askSession S request).perform w = (.ok is, v)) : ∀ i ∈ is, Answers S w v i := by
  cases request with
  | byKey target id =>
    obtain ⟨found, u, hu, h⟩ := Act.perform_bind_ok.1 h
    cases h
    intro i hi
    obtain rfl : found = some i := Option.mem_toList.1 hi
    exact find_answers hu
  | byQuery q =>
    obtain ⟨_, u, hu, h⟩ := Act.perform_bind_ok.1 h
    obtain ⟨-, rfl⟩ := ensureOpen_ok hu
    obtain ⟨s, u, hu, h⟩ := Act.perform_bind_ok.1 h
    cases hu
    obtain ⟨loaded, u, hu, h⟩ := Act.perform_bind_ok.1 h
    obtain ⟨t, ht, rfl⟩ := Work.perform_onSite_ok.1 hu
    obtain ⟨x, hx, hkeys⟩ := Gateway.findAssociated_ok ht
    have hsite := (adoptAll_tracks (S := S) loaded { w with site := t }).site
    rw [h] at hsite
    exact fun i hi => answers_of_adopted hx hkeys hsite (adoptAll_answers h i hi)

end Session

namespace World

/-! ## What a world brings back -/

/-- The statements that were sent in a moment of a world. -/
def sentIn (m : Moment (Recorded δ)) : List Exchange :=
  m.after.site.outside.exchanges.drop m.before.site.outside.exchanges.length

/-- The row of a key came back over the connection of the session with a number. -/
def Brings (S : Schema) (n : Nat) (k : EntityKey) (m : Moment (Recorded δ)) : Prop :=
  ∃ x, m.before.work? n = some x ∧ ∃ e ∈ sentIn m, e.Fetches S x.session.gateway.connection k

/-- The session with a number has made an instance persistent, which has a key now. -/
def Persists (S : Schema) (n : Nat) (k : EntityKey) (m : Moment δ) : Prop :=
  ∃ i r j, m.event = .called n (.persist i) (.ok r) ∧ m.after.site.heap.key S i = .ok j ∧
    (j == k) = true

variable [Database δ] [Callbacks δ] {n : Nat} {k : EntityKey} {i : InstanceId}

omit [Database δ] [Callbacks δ] in
/-- To put an association value somewhere changes no key. -/
theorem setLink_key (hS : S.Lawful) (place : Place) (l : Link) (w : World δ) (i : InstanceId) :
    (w.setLink place l).site.heap.key S i = w.site.heap.key S i := by
  cases place with
  | loose name => rfl
  | field j name =>
    change (w.site.heap.setLink j name l).key S i = w.site.heap.key S i
    rw [Heap.key, Heap.key, Heap.setLink_id hS, Heap.setLink_typeOf]

/-- To a session a supplier does nothing, or it makes it track what has come back. -/
theorem Served.tracked {w u : World (Recorded δ)} {supplier : Supplier}
    {r : Except Error (List InstanceId)} {x y : Work (Recorded δ)} (h : Served S w supplier r u)
    (hx : w.work? n = some x) (hy : u.sessions[n]? = some y.session)
    (hk : y.session.context.get? k = some i) : x.session.context.get? k = some i ∨
      ∃ e ∈ u.site.outside.exchanges.drop w.site.outside.exchanges.length,
        e.Fetches S x.session.gateway.connection k := by
  rcases h.asked_or_kept hx with hkept | ⟨request, z, hasked, rfl⟩
  · rw [hy, Option.some.injEq] at hkept
    exact .inl (hkept ▸ hk)
  · obtain rfl := congrArg Prod.snd hasked
    rw [(work?_eq_some.1 (work?_install_self hx)).1, Option.some.injEq] at hy
    rw [(work?_eq_some.1 hx).2]
    exact Session.askSession_fetched request x k i (hy ▸ hk)

/-- A key that is tracked after a step was tracked before, or an instance with it was made persistent,
or its row came back. -/
theorem Step.tracked {w v : World (Recorded δ)} {e : Event} {x y : Work (Recorded δ)}
    (h : Step S w e v) (hx : w.work? n = some x) (hy : v.work? n = some y)
    (hk : y.session.context.get? k = some i) (hp : ¬Persists S n k ⟨w, e, v⟩) :
    x.session.context.get? k = some i ∨ Brings S n k ⟨w, e, v⟩ := by
  obtain ⟨hs, hsite⟩ := work?_eq_some.1 hy
  have hsame (hs' : v.sessions[n]? = some x.session) : x.session.context.get? k = some i := by
    rw [hs, Option.some.injEq] at hs'
    exact hs' ▸ hk
  cases h with
  | called m c h =>
    rcases (onSession_performs h).done_or_kept hx with hkept | ⟨rfl, z, hact, rfl⟩
    · exact .inl (hsame hkept)
    · rw [work?_install_self hx, Option.some.injEq] at hy
      subst hy
      rcases Session.call_tracked hact hk with htracked | hfetched | ⟨j, is, rfl, rfl, hkey⟩
      · exact .inl htracked
      · refine .inr ⟨x, hx, ?_⟩
        rw [sentIn, (work?_eq_some.1 hx).2]
        exact hfetched
      · obtain ⟨l, hl, hlk⟩ := hkey
        exact absurd ⟨j, is, l, rfl, hl, hlk⟩ hp
  | resolved place held hr h =>
    cases resolve_resolves h with
    | known => exact .inl (hsame (work?_eq_some.1 hx).1)
    | failed hserved => exact (hserved.tracked hx hs hk).imp_right fun hfetched => ⟨x, hx, hfetched⟩
    | filled hserved =>
      rw [setLink_sessions] at hs
      refine (hserved.tracked hx hs hk).imp_right fun hfetched => ⟨x, hx, ?_⟩
      rw [sentIn, setLink_outside]
      exact hfetched
  | loaded held c h =>
    cases load_loads h with
    | known => exact .inl (hsame (work?_eq_some.1 hx).1)
    | failed hserved => exact (hserved.tracked hx hs hk).imp_right fun hfetched => ⟨x, hx, hfetched⟩
    | filled hserved => exact (hserved.tracked hx hs hk).imp_right fun hfetched => ⟨x, hx, hfetched⟩
  | opened connection showSql =>
    refine .inl (hsame ?_)
    obtain ⟨hs', -⟩ := work?_eq_some.1 hx
    obtain ⟨hn, -⟩ := Array.getElem?_eq_some_iff.1 hs'
    exact (Array.getElem?_push_lt hn).trans ((Array.getElem?_eq_getElem hn).symm.trans hs')
  | elsewhere _ _ hsessions =>
    obtain ⟨choices, held, transaction, hs'⟩ := hsessions n _ (work?_eq_some.1 hx).1
    rw [hs, Option.some.injEq] at hs'
    rw [hs'] at hk
    exact .inl hk

/-- A key that is tracked in the end was tracked before, or its row came back in between, if nobody has
made an instance with it persistent. -/
theorem run_fetched (hS : S.Lawful) {w v : World (Recorded δ)} {trace : List (Moment (Recorded δ))}
    {x y : Work (Recorded δ)} (hrun : Run (Step S) w trace v) (hx : w.work? n = some x)
    (hy : v.work? n = some y) (hk : y.session.context.get? k = some i)
    (hp : ∀ m ∈ trace, ¬Persists S n k m) :
    x.session.context.get? k = some i ∨ ∃ m ∈ trace, Brings S n k m := by
  induction hrun generalizing x with
  | nil =>
    rw [hx, Option.some.injEq] at hy
    exact .inl (hy ▸ hk)
  | cons hstep hrest ih =>
    obtain ⟨hfirst, hp⟩ := List.forall_mem_cons.1 hp
    obtain ⟨z, hz, -⟩ := hstep.seen hS hx
    rcases ih hz hy hp with htracked | ⟨m, hm, hbrings⟩
    · refine (hstep.tracked hx hz htracked hfirst).imp_right fun hbrings => ?_
      exact ⟨_, List.mem_cons_self, hbrings⟩
    · exact .inr ⟨m, List.mem_cons_of_mem _ hm, hbrings⟩

/-- An instance that the session with a number answers with is tracked there, or it was made of a row
that came back. -/
def Answers (S : Schema) (n : Nat) (w v : World (Recorded δ)) (i : InstanceId) : Prop :=
  ∃ x y, w.work? n = some x ∧ v.work? n = some y ∧ ((∃ k, y.session.context.get? k = some i) ∨
    ∃ e ∈ v.site.outside.exchanges.drop w.site.outside.exchanges.length,
      ∀ k, Session.KeysOf S v.site.heap [i] k → e.Fetches S x.session.gateway.connection k)

section Answers

variable {w v : World (Recorded δ)} {items : List InstanceId}

theorem found_answers {entity : String} {id : Value}
    (h : Step S w (.called n (.find entity id) (.ok items)) v) (hi : i ∈ items) :
    Answers S n w v i := by
  cases h with
  | called _ _ h =>
    cases onSession_performs h with
    | @done x y _ hx hfound =>
      obtain ⟨found, hperform, rfl⟩ := Act.perform_map_ok.1 hfound
      obtain rfl : found = some i := Option.mem_toList.1 hi
      refine ⟨x, y, hx, work?_install_self hx, ?_⟩
      rw [(work?_eq_some.1 hx).2]
      exact Session.findById_answers hperform

theorem resolved_answers (hS : S.Lawful) {place : Place} {key : Value} {supplier : Supplier}
    (h : Step S w (.resolved place (.unloaded key none supplier) (.ok (some i))) v)
    (hsupplier : supplier.session? = some n) : Answers S n w v i := by
  cases h with
  | resolved _ held hr h =>
    obtain ⟨items, u, hserved, hhead, rfl⟩ := (resolve_resolves h).answered
    obtain ⟨request, x, y, hx, hasked, rfl⟩ := hserved.of_session hsupplier
    have hanswers := Session.askSession_answers hasked i (List.mem_of_head? hhead)
    refine ⟨x, ⟨_, y.session⟩, hx, work?_eq_some.2 ⟨?_, rfl⟩, hanswers.imp_right ?_⟩
    · rw [setLink_sessions]
      exact (work?_eq_some.1 (work?_install_self hx)).1
    · rintro ⟨e, he, hkeys⟩
      rw [setLink_outside, (work?_eq_some.1 hx).2]
      refine ⟨e, he, fun k hk => hkeys k ?_⟩
      obtain ⟨j, hj, l, hl, hlk⟩ := hk
      rw [setLink_key hS] at hl
      exact ⟨j, hj, l, hl, hlk⟩

theorem loaded_answers {distinct : Bool} {cell : CellId} {supplier : Supplier}
    (h : Step S w (.loaded (.lazy distinct cell supplier) (.ok items)) v)
    (hsupplier : supplier.session? = some n)
    (hcell : (Collection.lazy distinct cell supplier).current? w.site.heap.cells = none)
    (hi : i ∈ items) : Answers S n w v i := by
  cases h with
  | loaded held _ h =>
    obtain ⟨found, u, hserved, hitems, rfl⟩ := (load_loads h).answered hcell
    obtain ⟨request, x, y, hx, hasked, rfl⟩ := hserved.of_session hsupplier
    rw [hitems, Collection.mem_normalize] at hi
    let site : Site (Recorded δ) := { y.site with heap := y.site.heap.fillCell cell items }
    have hsession := (work?_eq_some.1 (work?_install_self (y := y) hx)).1
    refine ⟨x, ⟨site, y.session⟩, hx, work?_eq_some.2 ⟨hsession, rfl⟩, ?_⟩
    rw [(work?_eq_some.1 hx).2]
    exact Session.askSession_answers hasked i hi

/-- What a session yields is tracked, or it was made of a row that came back. -/
theorem Yields.answers (hS : S.Lawful) {m : Moment (Recorded δ)}
    (hm : Step S m.before m.event m.after) (h : Yields n m i) : Answers S n m.before m.after i := by
  cases h with
  | found hi => exact found_answers hm hi
  | resolved hsupplier => exact resolved_answers hS hm hsupplier
  | loaded hsupplier hcell hi => exact loaded_answers hm hsupplier hcell hi

end Answers

/-! ## After a delete -/

/-- What holds of a key since the session with a number has deleted it, as long as nobody makes an
instance with it persistent again. -/
structure OnlyFetched (S : Schema) (n : Nat) (k : EntityKey) (old : List (Moment (Recorded δ)))
    (d : Moment (Recorded δ)) (since : List (Moment (Recorded δ))) : Prop where
  /-- The session has forgotten it. -/
  forgotten : ∀ x, d.after.work? n = some x → x.session.context.get? k = none
  /-- It is tracked again only if its row has come back. -/
  tracked : ∀ first m last, since = first ++ m :: last → ∀ y i, m.after.work? n = some y →
    y.session.context.get? k = some i → ∃ m' ∈ first ++ [m], Brings S n k m'
  /-- An instance with it is yielded only if its row has come back, if the program leaves the
  identifiers of tracked instances alone. -/
  yielded : (∀ m ∈ old ++ d :: since, LeavesIds S n m) →
    ∀ first m last, since = first ++ m :: last → ∀ i j, Yields n m i →
      m.after.site.heap.key S i = .ok j → (j == k) = true → ∃ m' ∈ first ++ [m], Brings S n k m'

/-- A session that has deleted a key does not track it. -/
theorem deleted_forgotten {w v : World δ} {r : List InstanceId} {j : EntityKey}
    (h : Step S w (.called n (.delete i) (.ok r)) v) (hj : w.site.heap.key S i = .ok j)
    (hjk : (j == k) = true) :
    ∃ x, v.work? n = some x ∧ x.session.context.get? k = none := by
  cases h with
  | called _ _ h =>
    cases onSession_performs h with
    | @done x y _ hx hact =>
      rw [(work?_eq_some.1 hx).2] at hj
      have hdeletes : Session.Deletes S k ⟨x, .call (.delete i) (.ok r), y⟩ :=
        ⟨i, r, j, rfl, hj, hjk⟩
      exact ⟨y, work?_install_self hx, hdeletes.untracked (.call _ hact)⟩

/-- A key that a session has deleted comes back only with its row, until an instance with it is made
persistent again. -/
theorem deleted_fetched (hS : S.Lawful) {outside : Recorded δ} {v : World (Recorded δ)}
    {old since : List (Moment (Recorded δ))} {d : Moment (Recorded δ)}
    (hrun : Run (Step S) (start outside) (old ++ d :: since) v) (hd : Deletes S n k d)
    (hp : ∀ m ∈ since, ¬Persists S n k m) : OnlyFetched S n k old d since := by
  obtain ⟨hold, hstep, hsince⟩ := hrun.split
  obtain ⟨i, r, j, hevent, hj, hjk⟩ := hd
  obtain ⟨x, hx, hforgotten⟩ := deleted_forgotten (hevent ▸ hstep) hj hjk
  have huntil {first last : List (Moment (Recorded δ))} {m : Moment (Recorded δ)}
      (hsplit : since = first ++ m :: last) : Run (Step S) d.after (first ++ [m]) m.after := by
    rw [hsplit] at hsince
    obtain ⟨hfirst, hm, -⟩ := hsince.split
    exact hfirst.trans (.single hm)
  have hmem {first last : List (Moment (Recorded δ))} {m m' : Moment (Recorded δ)}
      (hsplit : since = first ++ m :: last) (hm' : m' ∈ first ++ [m]) : m' ∈ since := by
    rw [hsplit, List.append_cons]
    exact List.mem_append_left last hm'
  have htracked (first m last) (hsplit : since = first ++ m :: last) (y i)
      (hy : m.after.work? n = some y) (hk : y.session.context.get? k = some i) :
      ∃ m' ∈ first ++ [m], Brings S n k m' := by
    refine (run_fetched hS (huntil hsplit) hx hy hk fun m' hm' => hp m' (hmem hsplit hm')).resolve_left
      fun hbefore => ?_
    rw [hforgotten] at hbefore
    cases hbefore
  refine ⟨fun y hy => ?forgotten, htracked, ?yielded⟩
  case forgotten =>
    rw [hx, Option.some.injEq] at hy
    exact hy ▸ hforgotten
  case yielded =>
    intro hleaves first m last hsplit i j hi hj hjk
    have hmoment : Step S m.before m.event m.after :=
      hsince.step_of_mem (hmem hsplit (by simp))
    obtain ⟨z, y, hz, hy, ⟨k', hk'⟩ | ⟨e, he, hfetches⟩⟩ := hi.answers hS hmoment
    · -- what is tracked has the key that it is tracked under
      have hrun' := (hold.trans (.single hstep)).trans (huntil hsplit)
      have hleaves' : ∀ m' ∈ old ++ [d] ++ (first ++ [m]), LeavesIds S n m' := by
        intro m' hm'
        refine hleaves m' ?_
        rw [List.append_cons]
        exact List.mem_append.2 ((List.mem_append.1 hm').imp_right (hmem hsplit))
      obtain ⟨-, hidentified⟩ := run_identified hS hrun' hleaves' y hy
      obtain ⟨l, hl, hlk⟩ := hidentified.get? hk'
      rw [← (work?_eq_some.1 hy).2, hj, Except.ok.injEq] at hl
      subst hl
      refine htracked first m last hsplit y i hy ?_
      rw [← Context.get?_congr (BEq.trans (BEq.symm hlk) hjk), hk']
    · refine ⟨m, by simp, z, hz, e, he, hfetches k ?_⟩
      exact ⟨i, List.mem_singleton_self i, j, hj, hjk⟩

end World

/-! ## A note that comes back

Over a table in which every number is that of a note, the seventh note is found, deleted and looked for
again. -/

namespace Notes

/-- A session is opened over the shelf, and what it sends is written down. -/
def desk : World (Recorded Shelf) := ((World.openSession 0 false).perform (World.start ⟨{}, []⟩)).2

/-- The session is called for something. -/
def serve (c : Session.Call) (w : World (Recorded Shelf)) :
    Except Error (List InstanceId) × World (Recorded Shelf) :=
  (World.onSession 0 (c.act schema)).perform w

/-- What happens when it is. -/
def service (c : Session.Call) (w : World (Recorded Shelf)) : World.Moment (Recorded Shelf) :=
  ⟨w, .called 0 c (serve c w).1, (serve c w).2⟩

/-- The seventh note is found. -/
def lending : World.Moment (Recorded Shelf) := service (.find "Note" (.bigInt 7)) desk

/-- It is deleted. -/
def withdrawal : World.Moment (Recorded Shelf) := service (.delete 0) lending.after

/-- It is looked for again. -/
def inquiry : World.Moment (Recorded Shelf) := service (.find "Note" (.bigInt 7)) withdrawal.after

theorem run_inquiry : Run (World.Step schema) (World.start ⟨{}, []⟩)
    ([⟨World.start ⟨{}, []⟩, .opened, desk⟩, lending] ++ withdrawal :: [inquiry]) inquiry.after :=
  .cons (.opened 0 false _) (.cons (.called 0 _ rfl) (.cons (.called 0 _ rfl)
    (.cons (.called 0 _ rfl) (.nil _))))

theorem deletes_withdrawal : World.Deletes schema 0 (key 7) withdrawal := by
  obtain ⟨r, hr⟩ :=
    exists_of_isOk (show (serve (.delete 0) lending.after).1.isOk = true by decide +kernel)
  refine ⟨0, r, key 7, congrArg _ hr, Heap.key_eq_ok.2 ⟨ok_of_toOption ?_, ?_⟩, BEq.rfl⟩
  · decide +kernel
  · decide +kernel

/-- The seventh note is what was deleted, and only its row can have brought it back. -/
theorem deleted_fetched_seventh : World.OnlyFetched schema 0 (key 7)
    [⟨World.start ⟨{}, []⟩, .opened, desk⟩, lending] withdrawal [inquiry] := by
  refine World.deleted_fetched lawful run_inquiry deletes_withdrawal ?_
  refine List.forall_mem_singleton.2 ?_
  rintro ⟨i, r, j, hevent, -⟩
  cases hevent

/-- The instance that is tracked under the seventh number. -/
def seventh? (w : World (Recorded Shelf)) : Option InstanceId :=
  (w.work? 0).bind fun x => x.session.context.get? (key 7)

/-- A session does not read its own deletes: the note is tracked and is deleted, and before anything was
flushed it is found again, as another instance with the same key, which is tracked from then on. -/
theorem resurrected : World.Reachable schema lending.after ∧ seventh? lending.after = some 0 ∧
    World.Deletes schema 0 (key 7) withdrawal ∧ seventh? withdrawal.after = none ∧
      inquiry.before = withdrawal.after ∧
        inquiry.event = .called 0 (.find "Note" (.bigInt 7)) (.ok [1]) ∧
          inquiry.after.site.heap.key schema 1 = .ok (key 7) ∧ seventh? inquiry.after = some 1 := by
  refine ⟨⟨_, _, run_inquiry.split.1⟩, by decide +kernel, deletes_withdrawal, by decide +kernel, rfl,
    ?_, ?_, by decide +kernel⟩
  · exact congrArg _ (ok_of_toOption (by decide +kernel))
  · exact Heap.key_eq_ok.2 ⟨ok_of_toOption (by decide +kernel), by decide +kernel⟩

end Notes

end EntitySession
