import EntitySession.Proofs.Flush
import EntitySession.Proofs.Worlds

/-!
# An identifier leads to one instance

Three ways lead to an instance of a session: it is found by its identifier, a reference leads to it, or
it is in a collection that is loaded.  The first two select a row by an identifier or by a foreign key,
the third by a foreign key or through a table of links, and each works out the key in its own way.

All of them lead to the instance that is tracked under the key, and so to the same one, as long as the
key is not deleted; and none of them disturbs an instance that is tracked already, whatever the rows
say that came back.  This is `World.identity_map`.  It takes a database that answers a selection by an
identifier with rows that have it (`AnswersById`), accessors that keep what they are given, and a
program that leaves the identifiers of tracked instances alone.

The invariant is `Context.Identified`: each tracked instance has the very key that it is tracked under.
-/

set_option autoImplicit false

namespace EntitySession

variable {δ : Type} {S : Schema}

/-- A selection by an identifier is answered with rows that have this identifier. -/
def AnswersById (S : Schema) (δ : Type) [Database δ] : Prop :=
  ∀ (c : ConnectionId) (entity : String) (m : Metadata) (id : Value) (d : δ) (rows : List Row),
    S.metadata entity = .ok m →
    (Database.query c (Gateway.selectBy m m.identifier.column).render [id] d).1 = .ok rows →
      ∀ row ∈ rows, ∃ raw v, m.identifierCell? row = some raw ∧
        raw.cast m.identifier.sqlType = .ok v ∧ (v == id) = true

/-- To leave out repetitions leaves out no element. -/
theorem Collection.mem_normalize {distinct : Bool} {items : List InstanceId} {i : InstanceId} :
    i ∈ normalize distinct items ↔ i ∈ items := by
  rw [normalize, withoutRepeats]
  split
  · exact List.mem_eraseDups
  · exact Iff.rfl

namespace Gateway

variable [Database δ] {g : Gateway} {loader : Loader} {entity : String} {id : Value} {i : InstanceId}
  {s t : Site δ}

/-- What is found comes from a row that the selection by the identifier was answered with. -/
theorem findById_row (h : (g.findById S loader entity id).perform s = (.ok (some i), t)) :
    ∃ m rows row heap, S.metadata entity = .ok m ∧
      (Database.query g.connection (selectBy m m.identifier.column).render [id] s.outside).1 =
        .ok rows ∧
      row ∈ rows ∧ s.heap.hydrate S loader entity row = .ok (i, heap) ∧ t.heap = heap := by
  obtain ⟨m, u, hu, h⟩ := Act.perform_bind_ok.1 h
  obtain ⟨hm, rfl⟩ := Prod.mk.inj hu
  obtain ⟨rows, u, hu, h⟩ := Act.perform_bind_ok.1 h
  obtain ⟨hrows, rfl⟩ := perform_send_ok hu
  cases rows with
  | nil => cases h
  | cons row rest =>
    obtain ⟨l, u, hu, h⟩ := Act.perform_bind_ok.1 h
    cases h
    obtain ⟨heap, hh, rfl⟩ := Site.perform_change_eq_ok.1 hu
    exact ⟨m, _, row, heap, hm, hrows, List.mem_cons_self, hh, rfl⟩

/-- What is found has the key that was asked for. -/
theorem findById_key (hS : S.Lawful) (hδ : AnswersById S δ)
    (h : (g.findById S loader entity id).perform s = (.ok (some i), t)) :
    ∃ j, t.heap.key S i = .ok j ∧ (j == ⟨entity, id⟩) = true := by
  obtain ⟨m, rows, row, heap, hm, hrows, hrow, hh, rfl⟩ := findById_row h
  obtain ⟨raw, v, hraw, hv, hvid⟩ := hδ _ entity m id _ rows hm hrows row hrow
  obtain ⟨raw', v', hraw', hv', hid⟩ := Heap.id_of_hydrate hS hm hh
  rw [hraw, Option.some.injEq] at hraw'
  subst hraw'
  rw [hv, Except.ok.injEq] at hv'
  subst hv'
  obtain ⟨record, hrecord⟩ := Heap.hydrate_some hh
  refine ⟨⟨entity, v⟩, Heap.key_eq_ok.2 ⟨hid, Heap.typeOf_of_some hrecord⟩, ?_⟩
  exact (EntityKey.beq_iff _ _).2 ⟨rfl, (Value.beq_iff_folded _ _).1 hvid⟩

end Gateway

namespace Session

/-! ## What a session answers -/

/-- An instance has a key, and it is the one tracked under it. -/
structure Knows (S : Schema) (x : Work δ) (k : EntityKey) (i : InstanceId) : Prop where
  key : x.site.heap.key S i = .ok k
  tracked : x.session.context.get? k = some i

theorem Knows.grows {x y : Work δ} {k : EntityKey} {i : InstanceId} (h : Knows S x k i)
    (hg : x.Grows y) : Knows S y k i :=
  ⟨hg.heap.key h.key, hg.context.get? k i h.tracked⟩

variable {x y : Work δ} {i l : InstanceId} {k j : EntityKey}

theorem Knows.of_keepsValues {site : Site δ} (h : Knows S x k i)
    (hv : x.site.heap.KeepsValues S site.heap) : Knows S { x with site := site } k i :=
  ⟨hv.key h.key, h.tracked⟩

/-- Adopting an instance under its own key leads to the one that is tracked under it. -/
theorem adopt_ok (hx : x.session.context.Identified S x.site.heap) (hl : x.site.heap.key S l = .ok j)
    (hjk : (j == k) = true) (h : (adopt S k l).perform x = (.ok i, y)) :
    y.site = x.site ∧ y.session.context.Identified S y.site.heap ∧
      ∃ k', Knows S y k' i ∧ (k' == k) = true := by
  obtain ⟨found, u, hu, h⟩ := Act.perform_bind_ok.1 h
  obtain ⟨hfound, rfl⟩ := Prod.mk.inj hu
  rw [Except.ok.injEq] at hfound
  cases found with
  | some tracked =>
    cases h
    obtain ⟨k', hk', hkk⟩ := hx.get? hfound
    exact ⟨rfl, hx, k', ⟨hk', by rw [Context.get?_congr hkk, hfound]⟩, hkk⟩
  | none =>
    obtain ⟨_, u, hu, h⟩ := Act.perform_bind_ok.1 h
    obtain ⟨c, hc, rfl⟩ := Work.perform_modifyContext_ok.1 hu
    obtain ⟨hi, rfl⟩ := Prod.mk.inj h
    have hi : (c.get? k).getD l = i := Except.ok.inj hi
    obtain ⟨l', hl'⟩ := Context.get?_put_self hc hl
    have htracked : c.get? k = some i := by
      rw [Context.get?_congr hjk] at hl'
      rw [hl', Option.getD_some] at hi
      rw [hl', hi]
    obtain ⟨k', hk', hkk⟩ := (hx.put hc).get? htracked
    exact ⟨rfl, hx.put hc, k', ⟨hk', by rw [Context.get?_congr hkk, htracked]⟩, hkk⟩

variable [Database δ] [Callbacks δ]

theorem adoptAll_ok {ls is : List InstanceId} (hx : x.session.context.Identified S x.site.heap)
    (h : (adoptAll S ls).perform x = (.ok is, y)) : ∀ i ∈ is, ∃ k, Knows S y k i := by
  induction ls generalizing x is with
  | nil =>
    cases h
    exact fun _ hi => nomatch hi
  | cons l rest ih =>
    obtain ⟨k, u, hu, h⟩ := Act.perform_bind_ok.1 h
    obtain ⟨hk, rfl⟩ := Prod.mk.inj hu
    obtain ⟨i, u, hi, h⟩ := Act.perform_bind_ok.1 h
    obtain ⟨is, u', his, h⟩ := Act.perform_bind_ok.1 h
    cases h
    obtain ⟨-, hu, k', hknows, -⟩ := adopt_ok hx hk BEq.rfl hi
    have hgrows := (adoptAll_growth (S := S) rest u).grows
    rw [his] at hgrows
    refine List.forall_mem_cons.2 ⟨⟨k', hknows.grows hgrows⟩, ih hu his⟩

/-- Rows that have become instances take nothing from the tracked ones. -/
theorem identified_of_via {α : Type} {f : Act (Site δ) α} {r : Except Error α} {t : Site δ}
    (hs : Sound S x) (hx : x.session.context.Identified S x.site.heap)
    (hf : f.Via (Site.Growth S) x.site) (h : f.perform x.site = (r, t)) :
    x.session.context.Identified S t.heap := by
  have hextends := hf.extends
  rw [h] at hextends
  exact hx.of_keepsKeys hs.context (Heap.Extends.keepsValues S hextends).keepsKeys

theorem loadMany_ok {q : AssociationQuery} {is : List InstanceId} (hs : Sound S x)
    (hx : x.session.context.Identified S x.site.heap) (h : (loadMany S q).perform x = (.ok is, y)) :
    ∀ i ∈ is, ∃ k, Knows S y k i := by
  obtain ⟨_, u, hu, h⟩ := Act.perform_bind_ok.1 h
  obtain ⟨-, rfl⟩ := ensureOpen_ok hu
  obtain ⟨s, u, hu, h⟩ := Act.perform_bind_ok.1 h
  cases hu
  obtain ⟨loaded, u, hu, h⟩ := Act.perform_bind_ok.1 h
  obtain ⟨t, ht, rfl⟩ := Work.perform_onSite_ok.1 hu
  have hvia : (x.session.gateway.findAssociated S x.session.loader q).Via (Site.Growth S) x.site :=
    Gateway.findAssociated_growth _ q x.site
  have hx' := identified_of_via hs hx hvia ht
  exact adoptAll_ok (x := { x with site := t }) hx' h

/-- What is found has the key that was asked for, and it is the one tracked under it. -/
theorem find_ok (hS : S.Lawful) (hδ : AnswersById S δ) {entity : String} {id : Value} (hs : Sound S x)
    (hx : x.session.context.Identified S x.site.heap)
    (h : (find S entity id).perform x = (.ok (some i), y)) :
    ∃ k k', EntityKey.of S.mappings entity id = .ok k ∧ Knows S y k' i ∧ (k' == k) = true := by
  obtain ⟨_, u, hu, h⟩ := Act.perform_bind_ok.1 h
  obtain ⟨-, rfl⟩ := ensureOpen_ok hu
  obtain ⟨k, u, hu, h⟩ := Act.perform_bind_ok.1 h
  obtain ⟨hk, rfl⟩ := Prod.mk.inj hu
  obtain ⟨found, u, hu, h⟩ := Act.perform_bind_ok.1 h
  obtain ⟨hfound, rfl⟩ := Prod.mk.inj hu
  rw [Except.ok.injEq] at hfound
  refine ⟨k, ?_⟩
  cases found with
  | some tracked =>
    cases h
    obtain ⟨k', hk', hkk⟩ := hx.get? hfound
    exact ⟨k', hk, ⟨hk', by rw [Context.get?_congr hkk, hfound]⟩, hkk⟩
  | none =>
    obtain ⟨s, u, hu, h⟩ := Act.perform_bind_ok.1 h
    cases hu
    obtain ⟨loaded, u, hu, h⟩ := Act.perform_bind_ok.1 h
    obtain ⟨t, ht, rfl⟩ := Work.perform_onSite_ok.1 hu
    cases loaded with
    | none => cases h
    | some l =>
      obtain ⟨l', hadopt, hl'⟩ := Act.perform_map_ok.1 h
      rw [Option.some.injEq] at hl'
      subst hl'
      have hvia : (x.session.gateway.findById S x.session.loader entity k.id).Via (Site.Growth S)
          x.site := Gateway.findById_growth _ entity k.id x.site
      have hx' := identified_of_via hs hx hvia ht
      obtain ⟨j, hj, hjk⟩ := Gateway.findById_key hS hδ ht
      obtain rfl : entity = k.entity := by
        obtain ⟨m, -, h⟩ := bind_eq_ok.1 hk
        obtain ⟨v, -, h⟩ := bind_eq_ok.1 h
        cases h
        rfl
      obtain ⟨-, -, k', hknows, hkk⟩ := adopt_ok (x := { x with site := t }) hx' hj hjk hadopt
      exact ⟨k', hk, hknows, hkk⟩

theorem findById_ok (hS : S.Lawful) (hδ : AnswersById S δ) {entity : String} {id : Value}
    (hs : Sound S x) (hx : x.session.context.Identified S x.site.heap)
    (h : (findById S entity id).perform x = (.ok (some i), y)) :
    ∃ k k', EntityKey.of S.mappings entity id = .ok k ∧ Knows S y k' i ∧ (k' == k) = true := by
  obtain ⟨found, u, hu, h⟩ := Act.perform_bind_ok.1 h
  cases found with
  | none => cases h
  | some l =>
    obtain ⟨_, u', hu', h⟩ := Act.perform_bind_ok.1 h
    cases hu'
    split at h
    · cases h
      exact find_ok hS hδ hs hx hu
    · cases h

theorem askSession_ok (hS : S.Lawful) (hδ : AnswersById S δ) {request : Request}
    {is : List InstanceId} (hs : Sound S x) (hx : x.session.context.Identified S x.site.heap)
    (h : (World.askSession S request).perform x = (.ok is, y)) : ∀ i ∈ is, ∃ k, Knows S y k i := by
  cases request with
  | byKey target id =>
    obtain ⟨found, u, hu, h⟩ := Act.perform_bind_ok.1 h
    cases h
    intro i hi
    rw [Option.mem_toList] at hi
    obtain rfl : found = some i := hi
    obtain ⟨_, k, -, hknows, -⟩ := find_ok hS hδ hs hx hu
    exact ⟨k, hknows⟩
  | byQuery query => exact loadMany_ok hs hx h

omit [Callbacks δ] in
/-- Only an open session answers. -/
theorem find_isOpen {entity : String} {id : Value} {found : Option InstanceId}
    (h : (find S entity id).perform x = (.ok found, y)) : x.session.isOpen = true := by
  obtain ⟨_, u, hu, -⟩ := Act.perform_bind_ok.1 h
  exact (ensureOpen_ok hu).1

omit [Callbacks δ] in
theorem askSession_isOpen {request : Request} {is : List InstanceId}
    (h : (World.askSession S request).perform x = (.ok is, y)) : x.session.isOpen = true := by
  cases request with
  | byKey target id =>
    obtain ⟨found, u, hu, -⟩ := Act.perform_bind_ok.1 h
    exact find_isOpen hu
  | byQuery query =>
    obtain ⟨_, u, hu, -⟩ := Act.perform_bind_ok.1 h
    exact (ensureOpen_ok hu).1

end Session

namespace World

/-! ## What a world yields -/

/-- An instance that the session with a number has found, or that a reference or a collection that it
has bound got when it was loaded. -/
inductive Yields (n : Nat) : Moment δ → InstanceId → Prop
  | found {w v : World δ} {entity : String} {id : Value} {items : List InstanceId} {i : InstanceId}
      (hi : i ∈ items) : Yields n ⟨w, .called n (.find entity id) (.ok items), v⟩ i
  | resolved {w v : World δ} {place : Place} {key : Value} {supplier : Supplier} {i : InstanceId}
      (hsupplier : supplier.session? = some n) :
      Yields n ⟨w, .resolved place (.unloaded key none supplier) (.ok (some i)), v⟩ i
  | loaded {w v : World δ} {distinct : Bool} {cell : CellId} {supplier : Supplier}
      {items : List InstanceId} {i : InstanceId} (hsupplier : supplier.session? = some n)
      (hcell : (Collection.lazy distinct cell supplier).current? w.site.heap.cells = none)
      (hi : i ∈ items) :
      Yields n ⟨w, .loaded (.lazy distinct cell supplier) (.ok items), v⟩ i

theorem Yields.isRead {n : Nat} {m : Moment δ} {i : InstanceId} (h : Yields n m i) :
    m.event.IsRead := by
  cases h <;> trivial

/-- The session with a number is in order, and what it tracks has the keys that it is tracked under. -/
def Identified (S : Schema) (n : Nat) (w : World δ) : Prop :=
  ∀ x, w.work? n = some x → Session.Sound S x ∧ x.session.context.Identified S x.site.heap

variable [Database δ] [Callbacks δ] {n : Nat} {w v : World δ} {i : InstanceId}

/-- What is found has the key that was asked for, and it is the one tracked under it. -/
theorem found_knows (hS : S.Lawful) (hδ : AnswersById S δ) {entity : String} {id : Value}
    {items : List InstanceId} (hw : Identified S n w)
    (h : Step S w (.called n (.find entity id) (.ok items)) v) (hi : i ∈ items) :
    ∃ x y k k', w.work? n = some x ∧ x.session.isOpen = true ∧ v.work? n = some y ∧
      Session.Knows S y k' i ∧ EntityKey.of S.mappings entity id = .ok k ∧ (k' == k) = true := by
  cases h with
  | called _ _ h =>
    cases onSession_performs h with
    | @done x _ _ hx hfound =>
      obtain ⟨found, hperform, rfl⟩ := Act.perform_map_ok.1 hfound
      obtain rfl : found = some i := Option.mem_toList.1 hi
      obtain ⟨hs, hid⟩ := hw x hx
      obtain ⟨k, k', hk, hknows, hkk⟩ := Session.findById_ok hS hδ hs hid hperform
      obtain ⟨_, _, hfind, -⟩ := Act.perform_bind_ok.1 hperform
      exact ⟨x, _, k, k', hx, Session.find_isOpen hfind, work?_install_self hx, hknows, hk, hkk⟩

/-- A reference gets the instance that is tracked under its key. -/
theorem resolved_knows (hS : S.Lawful) (hδ : AnswersById S δ) {place : Place} {key : Value}
    {supplier : Supplier} (hw : Identified S n w)
    (h : Step S w (.resolved place (.unloaded key none supplier) (.ok (some i))) v)
    (hsupplier : supplier.session? = some n) :
    ∃ x y k, w.work? n = some x ∧ x.session.isOpen = true ∧ v.work? n = some y ∧
      Session.Knows S y k i := by
  cases h with
  | resolved _ held hr h =>
    obtain ⟨items, u, hserved, hhead, rfl⟩ := (resolve_resolves h).answered
    obtain ⟨request, x, y, hx, hasked, rfl⟩ := hserved.of_session hsupplier
    obtain ⟨hs, hid⟩ := hw x hx
    obtain ⟨k, hknows⟩ := Session.askSession_ok hS hδ hs hid hasked i (List.mem_of_head? hhead)
    refine ⟨x, _, k, hx, Session.askSession_isOpen hasked, work?_eq_some.2 ⟨?_, rfl⟩,
      hknows.of_keepsValues (setLink_keepsValues hS place _ (w.install n y))⟩
    rw [setLink_sessions]
    exact (work?_eq_some.1 (work?_install_self hx)).1

/-- A collection gets instances each of which is tracked under its key. -/
theorem loaded_knows (hS : S.Lawful) (hδ : AnswersById S δ) {distinct : Bool} {cell : CellId}
    {supplier : Supplier} {items : List InstanceId} (hw : Identified S n w)
    (h : Step S w (.loaded (.lazy distinct cell supplier) (.ok items)) v)
    (hsupplier : supplier.session? = some n)
    (hcell : (Collection.lazy distinct cell supplier).current? w.site.heap.cells = none)
    (hi : i ∈ items) :
    ∃ x y k, w.work? n = some x ∧ x.session.isOpen = true ∧ v.work? n = some y ∧
      Session.Knows S y k i := by
  cases h with
  | loaded held _ h =>
    obtain ⟨found, u, hserved, hitems, rfl⟩ := (load_loads h).answered hcell
    obtain ⟨request, x, y, hx, hasked, rfl⟩ := hserved.of_session hsupplier
    rw [hitems, Collection.mem_normalize] at hi
    obtain ⟨hs, hid⟩ := hw x hx
    obtain ⟨k, hknows⟩ := Session.askSession_ok hS hδ hs hid hasked i hi
    let site : Site δ := { y.site with heap := y.site.heap.fillCell cell items }
    refine ⟨x, { y with site := site }, k, hx, Session.askSession_isOpen hasked,
      work?_eq_some.2 ⟨(work?_eq_some.1 (work?_install_self hx)).1, rfl⟩, hknows.of_keepsValues ?_⟩
    exact (Heap.fillCell_extends _ _ _).keepsValues S

/-- Each of the instances that a session yields is the one that is tracked under its key. -/
theorem Yields.knows (hS : S.Lawful) (hδ : AnswersById S δ) {m : Moment δ}
    (hw : Identified S n m.before) (hm : Step S m.before m.event m.after) (h : Yields n m i) :
    ∃ x y k, m.before.work? n = some x ∧ x.session.isOpen = true ∧ m.after.work? n = some y ∧
      Session.Knows S y k i := by
  cases h with
  | found hi =>
    obtain ⟨x, y, k, k', hx, hopen, hy, hknows, -⟩ := found_knows hS hδ hw hm hi
    exact ⟨x, y, k', hx, hopen, hy, hknows⟩
  | resolved hsupplier => exact resolved_knows hS hδ hw hm hsupplier
  | loaded hsupplier hcell hi => exact loaded_knows hS hδ hw hm hsupplier hcell hi

/-! ## Runs -/

theorem Seen.inOrder {e : Event} {x y : Work δ} (h : Seen S n e x y)
    (hleaves : e = .elsewhere → ∀ e ∈ x.session.context.instances, ∀ v,
      x.site.heap.id S e.2 = .ok v → y.site.heap.id S e.2 = .ok v)
    (hx : Session.Reachable S x ∧ x.session.context.Identified S x.site.heap) :
    Session.Reachable S y ∧ y.session.context.Identified S y.site.heap :=
  ⟨h.reachable hx.1, h.identified hleaves hx.1.sound hx.2⟩

/-- As long as the program leaves the identifiers alone, what a session tracks has the keys that it is
tracked under. -/
theorem run_identified (hS : S.Lawful) {outside : δ} {trace : List (Moment δ)}
    (hrun : Run (Step S) (start outside) trace w) (hleaves : ∀ m ∈ trace, LeavesIds S n m) :
    Identified S n w := by
  let P (v : World δ) : Prop := ∀ x, v.work? n = some x →
    Session.Reachable S x ∧ x.session.context.Identified S x.site.heap
  have hP : P w := by
    refine hrun.invariant ?_ ?_
    · intro m hm hstep hbefore y hy
      cases hx : m.before.work? n with
      | none =>
        obtain ⟨g, rfl⟩ := hstep.new hx hy
        exact ⟨Session.reachable_start .., Context.identified_empty S _⟩
      | some x =>
        obtain ⟨y', hy', hseen⟩ := hstep.seen hS hx
        rw [hy, Option.some.injEq] at hy'
        subst hy'
        refine hseen.inOrder (fun he e hmem v hv => ?_) (hbefore x hx)
        rw [← (work?_eq_some.1 hx).2] at hv
        rw [← (work?_eq_some.1 hy).2]
        exact hleaves m hm he x hx e hmem v hv
    · intro y hy
      cases hy
  exact fun x hx => ⟨(hP x hx).1.sound, (hP x hx).2⟩

/-- In a session that is still open, what was tracked under a key is tracked under it now, if the key
was not deleted. -/
theorem run_tracked (hS : S.Lawful) {trace : List (Moment δ)} {k : EntityKey}
    (hrun : Run (Step S) w trace v) (hd : ∀ m ∈ trace, ¬Deletes S n k m) {x : Work δ}
    (hx : w.work? n = some x) (hk : x.session.context.get? k = some i) :
    ∃ y, v.work? n = some y ∧
      (y.session.isOpen = true → y.session.context.get? k = some i) := by
  refine hrun.invariant (P := fun u : World δ => ∃ y, u.work? n = some y ∧
    (y.session.isOpen = true → y.session.context.get? k = some i)) ?_ ⟨x, hx, fun _ => hk⟩
  rintro m hm hstep ⟨x, hx, hbefore⟩
  obtain ⟨y, hy, hseen⟩ := hstep.seen hS hx
  refine ⟨y, hy, fun hopen => hseen.tracked ?_ hopen (hbefore (hseen.isOpen hopen))⟩
  intro j r l he hl
  rw [← (work?_eq_some.1 hx).2] at hl
  exact Bool.eq_false_iff.2 fun hlk => hd m hm ⟨j, r, l, he, hl, hlk⟩

/-- A tracked instance is as it was, and so is what it will be compared with. -/
structure Undisturbed (S : Schema) (x y : Work δ) (e : EntityKey × InstanceId) : Prop where
  tracked : y.session.context.get? e.1 = some e.2
  columns : y.session.context.columns.get? e.1 = x.session.context.columns.get? e.1
  relations : y.session.context.relations.get? e.1 = x.session.context.relations.get? e.1
  id : ∀ v, x.site.heap.id S e.2 = .ok v → y.site.heap.id S e.2 = .ok v
  values : ∀ cs, x.site.heap.columnValues S e.2 = .ok cs → y.site.heap.columnValues S e.2 = .ok cs

/-- Reading disturbs nothing that is tracked. -/
theorem Step.undisturbed (hS : S.Lawful) {e : Event} {x : Work δ} (h : Step S w e v) (he : e.IsRead)
    (hx : w.work? n = some x) (hs : Session.Sound S x) :
    ∃ y, v.work? n = some y ∧ ∀ t ∈ x.session.context.instances, Undisturbed S x y t := by
  obtain ⟨y, hy, -, hgrows⟩ := h.read_session he hx
  have hvalues := (h.reads he).keepsValues hS
  rw [(work?_eq_some.1 hx).2, (work?_eq_some.1 hy).2] at hvalues
  refine ⟨y, hy, fun t ht => ?_⟩
  have htracked : x.session.context.get? t.1 = some t.2 := hs.context.get?_of_mem ht BEq.rfl
  have hcontains : x.session.context.contains t.1 = true := Context.contains_iff.2 ⟨t.2, htracked⟩
  obtain ⟨z, hz, -⟩ := (hs.context.entry t ht).isInstance
  exact ⟨hgrows.get? _ _ htracked, hgrows.columns _ hcontains, hgrows.relations _ hcontains,
    hvalues.ids t.2, hvalues.columns t.2 z hz⟩

/-- What holds of the instances that the session with a number yields in the course of a run. -/
structure IdentityMap (S : Schema) (n : Nat) (trace : List (Moment δ)) : Prop where
  /-- An instance that is yielded is at that moment the one tracked under its key. -/
  tracked : ∀ m ∈ trace, ∀ i, Yields n m i →
    ∃ y k, m.after.work? n = some y ∧ Session.Knows S y k i
  /-- An instance that is found has the key that was asked for, whatever the form of the identifier. -/
  asked : ∀ m ∈ trace, ∀ entity id items, m.event = .called n (.find entity id) (.ok items) →
    ∀ i ∈ items, ∃ k k', EntityKey.of S.mappings entity id = .ok k ∧
      m.after.site.heap.key S i = .ok k' ∧ (k' == k) = true
  /-- Instances that are yielded with the same key are one instance, if the key was not deleted in
  between. -/
  same : ∀ first m between m' last, trace = first ++ m :: (between ++ m' :: last) →
    ∀ i j k k', Yields n m i → Yields n m' j → m.after.site.heap.key S i = .ok k →
      m'.after.site.heap.key S j = .ok k' → (k == k') = true →
        (∀ d ∈ between, ¬Deletes S n k d) → i = j
  /-- No load disturbs an instance that is tracked already. -/
  undisturbed : ∀ m ∈ trace, m.event.IsRead → ∀ x, m.before.work? n = some x →
    ∃ y, m.after.work? n = some y ∧ ∀ t ∈ x.session.context.instances, Undisturbed S x y t

/-- Two instances that a session yields with the same key are one, unless the key was deleted in
between: the first is tracked from then on, and the second is what is tracked. -/
theorem same_of_yields (hS : S.Lawful) (hδ : AnswersById S δ) {m m' : Moment δ}
    {between : List (Moment δ)} {j : InstanceId} {k k' : EntityKey}
    (hm : Step S m.before m.event m.after) (hbetween : Run (Step S) m.after between m'.before)
    (hm' : Step S m'.before m'.event m'.after) (hw : Identified S n m.before)
    (hw' : Identified S n m'.before) (hi : Yields n m i) (hj : Yields n m' j)
    (hk : m.after.site.heap.key S i = .ok k) (hk' : m'.after.site.heap.key S j = .ok k')
    (hkk : (k == k') = true) (hd : ∀ d ∈ between, ¬Deletes S n k d) : i = j := by
  obtain ⟨-, y, l, -, -, hy, hknows⟩ := hi.knows hS hδ hw hm
  rw [(work?_eq_some.1 hy).2, hknows.key, Except.ok.injEq] at hk
  subst hk
  obtain ⟨x', y', l', hx', hopen, hy', hknows'⟩ := hj.knows hS hδ hw' hm'
  rw [(work?_eq_some.1 hy').2, hknows'.key, Except.ok.injEq] at hk'
  subst hk'
  -- the instance of the first moment is tracked when the second one comes, and a read leaves it there
  obtain ⟨z, hz, htracked⟩ := run_tracked hS hbetween hd hy hknows.tracked
  rw [hx', Option.some.injEq] at hz
  subst hz
  obtain ⟨z, hz, -, hgrows⟩ := hm'.read_session hj.isRead hx'
  rw [hy', Option.some.injEq] at hz
  subst hz
  have hlast := hgrows.get? l i (htracked hopen)
  rw [Context.get?_congr hkk, hknows'.tracked, Option.some.injEq] at hlast
  exact hlast.symm

/-- Whichever way it is reached, an identifier leads to one instance, and reaching it disturbs
none. -/
theorem identity_map (hS : S.Lawful) (hδ : AnswersById S δ) {outside : δ} {trace : List (Moment δ)}
    (hrun : Run (Step S) (start outside) trace w) (hleaves : ∀ m ∈ trace, LeavesIds S n m) :
    IdentityMap S n trace := by
  have hbefore {first last : List (Moment δ)} {m : Moment δ} (htrace : trace = first ++ m :: last) :
      Identified S n m.before := by
    subst htrace
    refine run_identified hS hrun.split.1 fun d hd => hleaves d ?_
    exact List.mem_append_left _ hd
  have hmoment : ∀ m ∈ trace, Step S m.before m.event m.after ∧ Identified S n m.before := by
    intro m hm
    obtain ⟨first, last, htrace⟩ := List.append_of_mem hm
    exact ⟨hrun.step_of_mem hm, hbefore htrace⟩
  refine ⟨fun m hm i hi => ?tracked, fun m hm entity id items he i hi => ?asked, ?same,
    fun m hm he x hx => ?undisturbed⟩
  case tracked =>
    obtain ⟨hstep, hw⟩ := hmoment m hm
    obtain ⟨-, y, k, -, -, hy, hknows⟩ := hi.knows hS hδ hw hstep
    exact ⟨y, k, hy, hknows⟩
  case asked =>
    obtain ⟨hstep, hw⟩ := hmoment m hm
    rw [he] at hstep
    obtain ⟨-, y, k, k', -, -, hy, hknows, hk, hkk⟩ := found_knows hS hδ hw hstep hi
    exact ⟨k, k', hk, (work?_eq_some.1 hy).2 ▸ hknows.key, hkk⟩
  case same =>
    intro first m between m' last htrace i j k k' hi hj hk hk' hkk hd
    have htrace' : trace = (first ++ m :: between) ++ m' :: last := by
      rw [htrace, List.append_assoc, List.cons_append]
    have hw := hbefore htrace
    have hw' := hbefore htrace'
    subst htrace
    obtain ⟨-, hm, hrest⟩ := hrun.split
    obtain ⟨hbetween, hm', -⟩ := hrest.split
    exact same_of_yields hS hδ hm hbetween hm' hw hw' hi hj hk hk' hkk hd
  case undisturbed =>
    obtain ⟨hstep, hw⟩ := hmoment m hm
    exact hstep.undisturbed hS he hx (hw x hx).1

end World

/-! ## A shelf of notes

A database that answers a selection by a number with a note that has it, and three ways to the seventh
note: by its number, by its number in another width, and through a reference. -/

namespace Notes

/-- The metadata of notes. -/
def metadata : Metadata :=
  { entity := "Note"
    table := ⟨"Note", [⟨"id", "id", .bigInt, false, false, none, none, none, true⟩,
      ⟨"text", "text", .text, true, false, none, none, none, false⟩], []⟩
    fields := [⟨"id", "id", .bigInt, .identifier⟩, ⟨"text", "text", .text, .simple⟩]
    idIndex := ⟨0, by decide⟩
    associations := [] }

/-- Only notes have metadata. -/
theorem metadata_of_ok {entity : String} {m : Metadata} (h : schema.metadata entity = .ok m) :
    entity = "Note" ∧ m = metadata := by
  obtain ⟨d, hd, rfl, -⟩ := Declaration.exists_of_metadata h
  obtain rfl := List.mem_singleton.1 hd
  have hnote : (schema.metadata "Note").toOption = some metadata := by decide +kernel
  refine ⟨rfl, ?_⟩
  rw [show schema.metadata "Note" = .ok m from h] at hnote
  exact Option.some.inj hnote

theorem fits : declaration.Fits metadata := by
  refine ⟨rfl, rfl, ?_, ?_⟩
  · intro f hf l b
    obtain rfl := List.mem_singleton.1 (show f ∈ [⟨"text", "text", .text, .simple⟩] from hf)
    exact nofun
  · intro f hf
    cases (show f ∈ [] from hf)

theorem lawful : schema.Lawful := by
  refine Declaration.lawful_schema fun d hd m hm => ?_
  obtain rfl := List.mem_singleton.1 hd
  rw [(metadata_of_ok hm).2]
  exact fits

/-- A table in which every number is that of a note. -/
structure Shelf where

instance : Database Shelf where
  query _ _ values d :=
    (.ok (match values with
      | [.bigInt n] => [.of ["id", "text"] [.bigInt n, .text "a"]]
      | _ => []), d)
  execute _ _ _ d := (.ok 1, d)
  insert _ _ _ d := (.ok ⟨1, []⟩, d)
  setAutoCommit _ _ d := (.ok (), d)
  commit _ d := (.ok (), d)
  rollback _ d := (.ok (), d)
  close _ d := (.ok (), d)

instance : Callbacks Shelf where
  loadOne _ _ d := (.ok none, d)
  loadMany _ d := (.ok [], d)
  supply _ d := (.ok [], d)
  performAction _ d := (.ok (), d)

theorem answersById_shelf : AnswersById schema Shelf := by
  intro c entity m id d rows hm hrows row hrow
  obtain ⟨-, rfl⟩ := metadata_of_ok hm
  cases Except.ok.inj hrows
  cases id with
  | bigInt n =>
    obtain rfl := List.mem_singleton.1 hrow
    refine ⟨.bigInt n, .bigInt n, ?_, ?_, BEq.rfl⟩
    · have hindex : Heading.indexOf? ⟨["id", "text"]⟩ "id" = some 0 := by decide +kernel
      have hidentifier : metadata.identifier = ⟨"id", "id", .bigInt, .identifier⟩ := rfl
      simp only [Metadata.identifierCell?, Row.namedOrAt?, Row.named?, Row.of, hidentifier, hindex]
      rfl
    · have hnull : Value.bigInt n ≠ .null := by intro h; cases h
      refine Value.cast_eq_ok.2 (.inr ⟨hnull, ?_⟩)
      have hle := Int64.le_toInt n
      have hlt := Int64.toInt_lt n
      change Value.bigIntOf? n.toInt = _
      rw [Value.bigIntOf?, if_pos (by omega), Int64.ofInt_toInt]
  | _ => cases hrow

/-- A session is opened over the shelf. -/
def library : World Shelf := ((World.openSession 0 false).perform (World.start {})).2

/-- A note is looked for by its number. -/
def lookFor (id : Value) (w : World Shelf) : Except Error (List InstanceId) × World Shelf :=
  (World.onSession 0 ((Session.Call.find "Note" id).act schema)).perform w

/-- The seventh note, which is loaded on first access. -/
def favourite : Reference :=
  .unloaded (.bigInt 7) none
    (.request "Reader" "favourite" (.session 0) (.byKey "Note" (.bigInt 7)))

/-- The seventh note was found, and found again by a number of another width. -/
def found : World Shelf := (lookFor (.int 7) (lookFor (.bigInt 7) library).2).2

/-- Somebody has a favourite note. -/
def favoured : World Shelf := { found with loose := [("favourite", .reference "Note" favourite)] }

/-- The favourite note is loaded. -/
def fetched : Except Error (Option InstanceId) × World Shelf :=
  (World.resolve schema (.loose "favourite") "Note" favourite).perform favoured

/-- The moments of the readings. -/
def reading : List (World.Moment Shelf) :=
  [⟨World.start {}, .opened, library⟩,
   ⟨library, .called 0 (.find "Note" (.bigInt 7)) (lookFor (.bigInt 7) library).1,
     (lookFor (.bigInt 7) library).2⟩,
   ⟨(lookFor (.bigInt 7) library).2, .called 0 (.find "Note" (.int 7))
     (lookFor (.int 7) (lookFor (.bigInt 7) library).2).1, found⟩,
   ⟨found, .elsewhere, favoured⟩,
   ⟨favoured, .resolved (.loose "favourite") favourite fetched.1, fetched.2⟩]

/-- All three ways lead to one note. -/
theorem identity_map_reading : World.IdentityMap schema 0 reading ∧
    (lookFor (.bigInt 7) library).1.toOption = some [0] ∧
    (lookFor (.int 7) (lookFor (.bigInt 7) library).2).1.toOption = some [0] ∧
    fetched.1.toOption = some (some 0) := by
  refine ⟨?_, by decide +kernel, by decide +kernel, by decide +kernel⟩
  have hrun : Run (World.Step schema) (World.start {}) reading fetched.2 := by
    refine .cons (.opened 0 false _) (.cons (.called 0 _ rfl) (.cons (.called 0 _ rfl) ?_))
    refine .cons (.elsewhere (.refl _) rfl ?_) (.cons (.resolved _ "Note" rfl rfl) (.nil _))
    exact fun n s hs => ⟨s.choices, s.isHeld, s.transaction, hs⟩
  refine World.identity_map lawful answersById_shelf hrun ?_
  intro m hm
  simp only [reading, List.mem_cons, List.not_mem_nil, or_false] at hm
  rcases hm with rfl | rfl | rfl | rfl | rfl
  · exact nofun
  · exact nofun
  · exact nofun
  · exact fun _ _ _ _ _ _ hid => hid
  · exact nofun

end Notes

end EntitySession
