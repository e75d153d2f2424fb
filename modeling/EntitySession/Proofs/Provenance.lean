import EntitySession.Proofs.Tracking
import EntitySession.Proofs.Writes

/-!
# Where tracked instances come from

Between two moments of a session some keys have become tracked.  Each of them has a reason in the
statements that were sent in between (`sentBetween`), or it was given to the session by the program:

* a row came back from which an instance with the key was made (`Exchange.Fetches`);
* the insert of a row for the key was acknowledged (`Exchange.InsertsRow`);
* an instance with the key was made persistent, and its insert waits.

What is said here for finding and loading, `Session.find_fetched` and `Session.loadMany_fetched`, holds
whether they succeed or fail half way.
-/

set_option autoImplicit false

namespace EntitySession

variable {δ : Type} {S : Schema}

/-- Whether a statement selects rows of a type. -/
def Statement.Selects (m : Metadata) : Statement → Prop
  | select columns table _ | selectLinked columns table _ _ _ _ =>
    columns = m.columnNames ∧ table = m.table.name
  | _ => False

namespace Exchange

/-- A row of the type of a key came back that describes an instance with this key. -/
def Fetches (S : Schema) (c : ConnectionId) (k : EntityKey) (x : Exchange) : Prop :=
  ∃ m statement values rows row, S.metadata k.entity = .ok m ∧ Statement.Selects m statement ∧
    x = .query c statement.render values (.ok rows) ∧ row ∈ rows ∧
      ∃ h loader i h' k', Heap.hydrate S h loader k.entity row = .ok (i, h') ∧ h'.key S i = .ok k' ∧
        (k' == k) = true

/-- The insert of a row for a key was done: the values that it lists have the identifier of the key, or
the database has generated an identifier which, once written to an instance, makes this the key. -/
def InsertsRow (S : Schema) (c : ConnectionId) (k : EntityKey) (x : Exchange) : Prop :=
  ∃ m fields values result, S.metadata k.entity = .ok m ∧ result.rows = 1 ∧
    x = .insert c (Statement.insert m.table.name (fields.map PersistentField.column)).render values
      (.ok result) ∧
    (fields = m.fields ∧ (∃ v id, (m.identifier, v) ∈ fields.zip values ∧
        v.cast m.identifier.sqlType = .ok id ∧ (id == k.id) = true) ∨
      fields = m.nonIdFields ∧ ∃ v id, result.generatedKey? = some v ∧
        v.cast m.identifier.sqlType = .ok id ∧
          ∃ h i h' k', Heap.set S h i m.identifier.name id = .ok h' ∧ h'.key S i = .ok k' ∧
            (k' == k) = true)

end Exchange

/-- The insert of an instance is that of a row for its key. -/
theorem Exchange.Inserts.insertsRow {h : Heap} {c : ConnectionId} {i : InstanceId} {x : Exchange}
    (hx : x.Inserts S h c i) {k j : EntityKey} (hk : h.key S i = .ok k) (hkj : (k == j) = true) :
    x.InsertsRow S c j := by
  obtain ⟨m, values, result, hm, hvalues, hrows, rfl⟩ := hx
  obtain ⟨hid, htype⟩ := Heap.key_eq_ok.1 hk
  obtain ⟨hentity, hfolded⟩ := (EntityKey.beq_iff k j).1 hkj
  obtain ⟨v, hv, hwritten⟩ :=
    exists_mem_zip_of_forall₂ hvalues m.identifier_mem
  have hcast := Heap.written_identifier hm hid hwritten
  rw [htype] at hm
  refine ⟨m, m.fields, values, result, hentity ▸ hm, hrows, rfl, .inl ⟨rfl, v, k.id, hv, hcast, ?_⟩⟩
  exact (Value.beq_iff_folded _ _).2 hfolded

/-- The statements that were sent between two moments. -/
def sentBetween (w v : Work (Recorded δ)) : List Exchange :=
  v.site.outside.exchanges.drop w.site.outside.exchanges.length

theorem mem_sentBetween {w v : Work (Recorded δ)} {xs ys : List Exchange} {x : Exchange}
    (h : v.site.outside.exchanges = w.site.outside.exchanges ++ xs ++ ys) (hx : x ∈ xs) :
    x ∈ sentBetween w v := by
  rw [sentBetween, h, List.append_assoc, List.drop_left]
  exact List.mem_append_left _ hx

/-! ## Tracking alone -/

/-- Nothing happened but that keys with a property were tracked. -/
structure Work.Tracks (P : EntityKey → Prop) (w v : Work δ) : Prop where
  site : v.site = w.site
  queue : v.session.queue = w.session.queue
  tracked : ∀ j i, v.session.context.get? j = some i → w.session.context.get? j = some i ∨ P j

namespace Work.Tracks

variable {P Q : EntityKey → Prop} {w v u : Work δ}

theorem refl (w : Work δ) : Tracks P w w := ⟨rfl, rfl, fun _ _ h => .inl h⟩

theorem trans (h : Tracks P w v) (h' : Tracks P v u) : Tracks P w u :=
  ⟨h'.site.trans h.site, h'.queue.trans h.queue, fun j i hj =>
    (h'.tracked j i hj).elim (h.tracked j i) .inr⟩

theorem mono (h : Tracks P w v) (hPQ : ∀ j, P j → Q j) : Tracks Q w v :=
  ⟨h.site, h.queue, fun j i hj => (h.tracked j i hj).imp_right (hPQ j)⟩

end Work.Tracks

/-- A key that was not tracked before is that of the instance that was put. -/
theorem Context.get?_put {h : Heap} {c c' : Context} {i l : InstanceId} {j : EntityKey}
    (hc : c.put S h l = .ok c') (hj : c'.get? j = some i) :
    c.get? j = some i ∨ i = l ∧ ∃ k, h.key S l = .ok k ∧ (k == j) = true := by
  obtain ⟨k, hk, -, ⟨-, rfl⟩ | ⟨-, columns, relations, -, -, rfl⟩⟩ := put_eq_ok hc
  · exact .inl hj
  · rw [get?_track] at hj
    split at hj
    · next hkj => exact .inr ⟨(Option.some.inj hj).symm, k, hk, hkj⟩
    · exact .inl hj

namespace Session

/-- The keys of some instances. -/
def KeysOf (S : Schema) (h : Heap) (is : List InstanceId) (j : EntityKey) : Prop :=
  ∃ i ∈ is, ∃ k, h.key S i = .ok k ∧ (k == j) = true

theorem put_tracks (l : InstanceId) (w : Work δ) :
    Work.Tracks (KeysOf S w.site.heap [l]) w
      ((Work.modifyContext fun h c => c.put S h l).perform w).2 := by
  cases hc : w.session.context.put S w.site.heap l with
  | error e =>
    rw [Work.perform_modifyContext_error hc]
    exact .refl w
  | ok c =>
    rw [Work.perform_modifyContext_ok.2 ⟨c, hc, rfl⟩]
    refine ⟨rfl, rfl, fun j i hj => ?_⟩
    rcases Context.get?_put hc hj with h | ⟨rfl, k, hk, hkj⟩
    · exact .inl h
    · exact .inr ⟨i, List.mem_singleton_self i, k, hk, hkj⟩

theorem adopt_tracks (k : EntityKey) (l : InstanceId) (w : Work δ) :
    Work.Tracks (KeysOf S w.site.heap [l]) w ((adopt S k l).perform w).2 := by
  refine Act.after_reading_bind (fun found _ => ?_) (.refl w)
  cases found with
  | some i => exact .refl w
  | none =>
    have hput := put_tracks (S := S) l w
    refine Act.after_bind (fun _ v hv => ?_) fun _ v hv => ?_
    · rw [hv] at hput
      exact hput
    · rw [hv] at hput
      exact hput

theorem adoptAll_tracks (is : List InstanceId) (w : Work δ) :
    Work.Tracks (KeysOf S w.site.heap is) w ((adoptAll S is).perform w).2 := by
  induction is generalizing w with
  | nil => exact .refl w
  | cons l rest ih =>
    have hmono : ∀ j, KeysOf S w.site.heap [l] j → KeysOf S w.site.heap (l :: rest) j := by
      rintro j ⟨i, hi, hk⟩
      exact ⟨i, List.mem_cons.2 (.inl (List.mem_singleton.1 hi)), hk⟩
    refine Act.after_reading_bind (fun k _ => ?_) (.refl w)
    have hadopt := adopt_tracks (S := S) k l w
    refine Act.after_bind (fun i v hv => ?_) fun e v hv => ?_
    · rw [hv] at hadopt
      have hrest := ih v
      rw [hadopt.site] at hrest
      have hmono' : ∀ j, KeysOf S w.site.heap rest j → KeysOf S w.site.heap (l :: rest) j := by
        rintro j ⟨i, hi, hk⟩
        exact ⟨i, List.mem_cons_of_mem _ hi, hk⟩
      refine (hadopt.mono hmono).trans ?_
      refine Act.after_bind (fun is u hu => ?_) fun e u hu => ?_
      · rw [hu] at hrest
        exact hrest.mono hmono'
      · rw [hu] at hrest
        exact hrest.mono hmono'
    · rw [hv] at hadopt
      exact hadopt.mono hmono

end Session

/-! ## Finding and loading -/

theorem Exchange.fetches_of_hydrate {m : Metadata} {statement : Statement} {values : List Value}
    {rows : List Row} {row : Row} {c : ConnectionId} {loader : Loader} {entity : String}
    {h h' t : Heap} {i : InstanceId} {k j : EntityKey} (hm : S.metadata entity = .ok m)
    (hs : statement.Selects m) (hrow : row ∈ rows) (hh : h.hydrate S loader entity row = .ok (i, h'))
    (ht : h'.Extends t) (hk : t.key S i = .ok k) (hkj : (k == j) = true) :
    (Exchange.query c statement.render values (.ok rows)).Fetches S c j := by
  obtain ⟨record, hrecord⟩ := Heap.hydrate_some hh
  have hrecord' := ht i _ hrecord
  have hentity : entity = j.entity := by
    rw [← ((EntityKey.beq_iff k j).1 hkj).1, ← (Heap.key_eq_ok.1 hk).2, Heap.typeOf_of_some hrecord']
  subst hentity
  rw [← Heap.key_congr (hrecord.trans hrecord'.symm)] at hk
  exact ⟨m, statement, values, rows, row, hm, hs, rfl, hrow, h, loader, i, h', k, hh, hk, hkj⟩

namespace Gateway

variable {loader : Loader} {g : Gateway}

/-- Each row has become an instance, in order. -/
theorem hydrateAll_ok {entity : String} {rows : List Row} {s t : Site δ} {is : List InstanceId}
    (h : (hydrateAll S loader entity rows).perform s = (.ok is, t)) :
    t.outside = s.outside ∧ s.heap.Extends t.heap ∧ List.Forall₂ (fun row i => ∃ h₀ h₁,
      Heap.hydrate S h₀ loader entity row = .ok (i, h₁) ∧ h₁.Extends t.heap) rows is := by
  induction rows generalizing s is with
  | nil =>
    cases h
    exact ⟨rfl, .refl _, .nil⟩
  | cons row rest ih =>
    obtain ⟨i, u, hu, h⟩ := Act.perform_bind_ok.1 h
    obtain ⟨is, u', hu', h⟩ := Act.perform_bind_ok.1 h
    cases h
    obtain ⟨heap, hh, rfl⟩ := Site.perform_change_eq_ok.1 hu
    obtain ⟨houtside, hextends, hrows⟩ := ih hu'
    exact ⟨houtside, (Heap.hydrate_extends hh).trans hextends, .cons ⟨_, heap, hh, hextends⟩ hrows⟩

variable [Database δ]

theorem findAll_ok {m : Metadata} {statement : Statement} {v : Value} {s t : Site (Recorded δ)}
    {is : List InstanceId} (hm : S.metadata m.entity = .ok m) (hs : statement.Selects m)
    (h : (g.findAll S loader m statement v).perform s = (.ok is, t)) :
    ∃ x, t.outside.exchanges = s.outside.exchanges ++ [x] ∧
      ∀ j, Session.KeysOf S t.heap is j → x.Fetches S g.connection j := by
  obtain ⟨rows, u, hu, h⟩ := Act.perform_bind_ok.1 h
  obtain ⟨outside, rfl⟩ := send_ok hu
  obtain ⟨houtside, -, hrows⟩ := hydrateAll_ok h
  refine ⟨_, congrArg Recorded.exchanges houtside, ?_⟩
  rintro j ⟨i, hi, k, hk, hkj⟩
  obtain ⟨row, hmem, h₀, h₁, hh, hext⟩ := exists_mem_zip_of_forall₂ hrows.flip hi
  exact Exchange.fetches_of_hydrate hm hs (List.of_mem_zip hmem).2 hh hext hk hkj

theorem findAssociated_ok {q : AssociationQuery} {s t : Site (Recorded δ)} {is : List InstanceId}
    (h : (g.findAssociated S loader q).perform s = (.ok is, t)) :
    ∃ x, t.outside.exchanges = s.outside.exchanges ++ [x] ∧
      ∀ j, Session.KeysOf S t.heap is j → x.Fetches S g.connection j := by
  unfold findAssociated at h
  split at h
  all_goals
    obtain ⟨m, u, hu, h⟩ := Act.perform_bind_ok.1 h
    obtain ⟨hm, rfl⟩ := Prod.mk.inj hu
    refine findAll_ok ((Mappings.entity_of_resolve hm).symm ▸ hm) ?_ h
    exact ⟨rfl, rfl⟩

theorem findById_ok {entity : String} {id : Value} {s t : Site (Recorded δ)} {i : InstanceId}
    (h : (g.findById S loader entity id).perform s = (.ok (some i), t)) :
    ∃ x, t.outside.exchanges = s.outside.exchanges ++ [x] ∧
      ∀ j, Session.KeysOf S t.heap [i] j → x.Fetches S g.connection j := by
  obtain ⟨m, u, hu, h⟩ := Act.perform_bind_ok.1 h
  obtain ⟨hm, rfl⟩ := Prod.mk.inj hu
  obtain ⟨rows, u, hu, h⟩ := Act.perform_bind_ok.1 h
  obtain ⟨outside, rfl⟩ := send_ok hu
  cases rows with
  | nil => cases h
  | cons row rest =>
    obtain ⟨l, u, hu, h⟩ := Act.perform_bind_ok.1 h
    cases h
    obtain ⟨heap, hh, rfl⟩ := Site.perform_change_eq_ok.1 hu
    refine ⟨_, rfl, ?_⟩
    rintro j ⟨i', hi, k, hk, hkj⟩
    obtain rfl := List.mem_singleton.1 hi
    exact Exchange.fetches_of_hydrate hm ⟨rfl, rfl⟩ List.mem_cons_self hh (.refl _) hk hkj

end Gateway

namespace Session

/-- Every key that is tracked now was tracked before, or its row came back in between. -/
def Fetched (S : Schema) (w v : Work (Recorded δ)) : Prop :=
  ∀ j i, v.session.context.get? j = some i → w.session.context.get? j = some i ∨
    ∃ x ∈ sentBetween w v, x.Fetches S w.session.gateway.connection j

theorem Fetched.refl (S : Schema) (w : Work (Recorded δ)) : Fetched S w w := fun _ _ h => .inl h

/-- Rows were asked for, and their keys are tracked. -/
theorem Fetched.of_tracks {w v : Work (Recorded δ)} {site : Site (Recorded δ)} {is : List InstanceId}
    {x : Exchange} (hx : site.outside.exchanges = w.site.outside.exchanges ++ [x])
    (hkeys : ∀ j, KeysOf S site.heap is j → x.Fetches S w.session.gateway.connection j)
    (h : Work.Tracks (KeysOf S site.heap is) { w with site := site } v) : Fetched S w v := by
  intro j i hj
  refine (h.tracked j i hj).imp_right fun hkey => ⟨x, ?_, hkeys j hkey⟩
  have hsent : v.site.outside.exchanges = w.site.outside.exchanges ++ [x] ++ [] := by
    rw [h.site, List.append_nil]
    exact hx
  exact mem_sentBetween hsent List.mem_cons_self

variable [Database δ]

theorem find_fetched (entity : String) (id : Value) (w : Work (Recorded δ)) :
    Fetched S w ((find S entity id).perform w).2 := by
  refine Act.after_reading_bind (fun _ _ => ?_) (.refl S w)
  refine Act.after_lift_bind (fun k _ => ?_) (.refl S w)
  refine Act.after_reading_bind (fun found _ => ?_) (.refl S w)
  cases found with
  | some i => exact .refl S w
  | none =>
    refine Act.after_reading_bind (fun s hs => ?_) (.refl S w)
    cases hs
    refine Work.after_onSite_bind (fun loaded t ht => ?_) fun _ _ _ _ _ h => .inl h
    cases loaded with
    | none => exact fun _ _ h => .inl h
    | some l =>
      obtain ⟨x, hx, hkeys⟩ := Gateway.findById_ok ht
      have hadopt := adopt_tracks (S := S) k l { w with site := t }
      rw [Act.perform_map]
      exact Fetched.of_tracks hx hkeys hadopt

theorem findById_fetched (entity : String) (id : Value) (w : Work (Recorded δ)) :
    Fetched S w ((findById S entity id).perform w).2 := by
  have hfind := find_fetched (S := S) entity id w
  refine Act.after_bind (fun found v hv => ?_) fun e v hv => ?_
  · rw [hv] at hfind
    cases found with
    | none => exact hfind
    | some i =>
      refine Act.after_reading_bind (fun _ _ => ?_) hfind
      split <;> exact hfind
  · rw [hv] at hfind
    exact hfind

theorem loadMany_fetched (q : AssociationQuery) (w : Work (Recorded δ)) :
    Fetched S w ((loadMany S q).perform w).2 := by
  refine Act.after_reading_bind (fun _ _ => ?_) (.refl S w)
  refine Act.after_reading_bind (fun s hs => ?_) (.refl S w)
  cases hs
  refine Work.after_onSite_bind (fun loaded t ht => ?_) fun _ _ _ _ _ h => .inl h
  obtain ⟨x, hx, hkeys⟩ := Gateway.findAssociated_ok ht
  have hadopt := adoptAll_tracks (S := S) loaded { w with site := t }
  exact Fetched.of_tracks hx hkeys hadopt

theorem askSession_fetched (request : Request) (w : Work (Recorded δ)) :
    Fetched S w ((World.askSession S request).perform w).2 := by
  cases request with
  | byKey target id =>
    have hfind := find_fetched (S := S) target id w
    refine Act.after_bind (fun found v hv => ?_) fun e v hv => ?_
    · rw [hv] at hfind
      exact hfind
    · rw [hv] at hfind
      exact hfind
  | byQuery q => exact loadMany_fetched q w

end Session

end EntitySession
