import EntitySession.Proofs.KeyMaps
import EntitySession.Proofs.Runs
import EntitySession.Proofs.Sessions

/-!
# What a session keeps up

A session is called, and between its calls anything may happen to the instances, to the outside and to
the choices: they are in the hands of the program, and of other sessions.  `Session.Step` is one call,
or something that happens elsewhere; the states that a new session can come to are
`Session.Reachable`.

Whatever the calls, the context stays in order (`Context.Sound`): its keys are distinct, they have
identifiers, and each entry has a baseline of the columns of its type.  The queue holds only writes of
the session itself.  These are the invariants of `Session.Sound`.

If besides nobody elsewhere takes an identifier away, every tracked instance keeps the very key that it
is tracked under (`Context.Identified`).
-/

set_option autoImplicit false

namespace EntitySession

variable {δ : Type} {S : Schema}

/-- Only NULL is the same key as NULL. -/
theorem EntityKey.id_ne_null {j k : EntityKey} (h : (j == k) = true) (hk : k.id ≠ .null) :
    j.id ≠ .null := by
  intro hj
  have hfolded := ((EntityKey.beq_iff j k).1 h).2
  rw [hj] at hfolded
  cases hid : k.id with
  | null => exact hk hid
  | _ => rw [hid] at hfolded; cases hfolded

/-! ## The operations of a context -/

namespace Context

variable {h h' : Heap} {c c' : Context} {k : EntityKey} {i : InstanceId}

theorem put_eq_ok (h₁ : c.put S h i = .ok c') :
    ∃ k, h.key S i = .ok k ∧ k.id ≠ .null ∧
      (c.contains k = true ∧ c' = c ∨ c.contains k = false ∧
        ∃ columns relations, h.columnValues S i = .ok columns ∧
          h.relationValues S i = .ok relations ∧ c' = c.track k i columns relations) := by
  rw [put] at h₁
  obtain ⟨k, hk, h₁⟩ := bind_eq_ok.1 h₁
  refine ⟨k, hk, ?_⟩
  split at h₁
  · cases h₁
  · next hnull =>
    refine ⟨fun h => hnull ((Value.isNull_iff _).2 h), ?_⟩
    split at h₁
    · next hc => exact .inl ⟨hc, (Except.ok.inj h₁).symm⟩
    · next hc =>
      obtain ⟨columns, hcolumns, h₁⟩ := bind_eq_ok.1 h₁
      obtain ⟨relations, hrelations, h₁⟩ := bind_eq_ok.1 h₁
      exact .inr ⟨by simpa using hc, columns, relations, hcolumns, hrelations,
        (Except.ok.inj h₁).symm⟩

/-- What is tracked stays, and so does its baseline. -/
structure Grows (c c' : Context) : Prop where
  get? : ∀ k i, c.get? k = some i → c'.get? k = some i
  columns : ∀ k, c.contains k = true → c'.columns.get? k = c.columns.get? k
  relations : ∀ k, c.contains k = true → c'.relations.get? k = c.relations.get? k

theorem contains_iff : c.contains k = true ↔ ∃ i, c.get? k = some i := by
  rw [contains, KeyMap.contains_eq_isSome_get?, Option.isSome_iff_exists]
  exact Iff.rfl

theorem get?_eq_none : c.get? k = none ↔ c.contains k = false := by
  rw [contains, KeyMap.contains_eq_isSome_get?, Option.isSome_eq_false_iff, Option.isNone_iff_eq_none]
  exact Iff.rfl

theorem get?_congr {j : EntityKey} (h : (j == k) = true) : c.get? j = c.get? k :=
  KeyMap.get?_congr c.instances h

namespace Grows

theorem refl (c : Context) : Grows c c := ⟨fun _ _ h => h, fun _ _ => rfl, fun _ _ => rfl⟩

theorem contains (h : Grows c c') (hk : c.contains k = true) : c'.contains k = true := by
  obtain ⟨i, hi⟩ := contains_iff.1 hk
  exact contains_iff.2 ⟨i, h.get? k i hi⟩

theorem trans {c'' : Context} (h : Grows c c') (h' : Grows c' c'') : Grows c c'' := by
  refine ⟨fun k i hi => h'.get? k i (h.get? k i hi), fun k hk => ?_, fun k hk => ?_⟩
  · exact (h'.columns k (h.contains hk)).trans (h.columns k hk)
  · exact (h'.relations k (h.contains hk)).trans (h.relations k hk)

end Grows

/-- To put an instance leaves those that are tracked alone. -/
theorem put_grows (h₁ : c.put S h i = .ok c') : Grows c c' := by
  obtain ⟨k, -, -, ⟨-, rfl⟩ | ⟨hnew, columns, relations, -, -, rfl⟩⟩ := put_eq_ok h₁
  · exact .refl _
  have hne (j : EntityKey) (hj : c.contains j = true) : ¬(k == j) = true := by
    intro hkj
    rw [Context.contains, KeyMap.contains_congr hkj] at hnew
    rw [Context.contains, hnew] at hj
    cases hj
  refine ⟨fun j l hl => ?_, fun j hj => ?_, fun j hj => ?_⟩
  · exact (get?_track ..).trans ((if_neg (hne j (contains_iff.2 ⟨l, hl⟩))).trans hl)
  · exact (KeyMap.get?_insert ..).trans (if_neg (hne j hj))
  · exact (KeyMap.get?_insert ..).trans (if_neg (hne j hj))

/-- What was put is tracked, or something else under its key. -/
theorem get?_put_self (h₁ : c.put S h i = .ok c') (hk : h.key S i = .ok k) :
    ∃ l, c'.get? k = some l := by
  obtain ⟨j, hj, -, ⟨hc, rfl⟩ | ⟨-, columns, relations, -, -, rfl⟩⟩ := put_eq_ok h₁
  all_goals
    rw [hk, Except.ok.injEq] at hj
    subst hj
  · exact contains_iff.1 hc
  · exact ⟨i, by rw [get?_track, if_pos BEq.rfl]⟩

theorem refresh_eq_ok (h₁ : c.refresh S h k = .ok c') :
    c.get? k = none ∧ c' = c ∨
      ∃ i columns relations, c.get? k = some i ∧ h.columnValues S i = .ok columns ∧
        h.relationValues S i = .ok relations ∧ c' = c.setBaseline k columns relations := by
  rw [refresh] at h₁
  split at h₁
  · next i hi =>
    obtain ⟨columns, hcolumns, h₁⟩ := bind_eq_ok.1 h₁
    obtain ⟨relations, hrelations, h₁⟩ := bind_eq_ok.1 h₁
    exact .inr ⟨i, columns, relations, hi, hcolumns, hrelations, (Except.ok.inj h₁).symm⟩
  · next hk => exact .inl ⟨hk, (Except.ok.inj h₁).symm⟩

theorem instances_refresh (h₁ : c.refresh S h k = .ok c') : c'.instances = c.instances := by
  rcases refresh_eq_ok h₁ with ⟨-, rfl⟩ | ⟨_, _, _, -, -, -, rfl⟩ <;> rfl

theorem instances_track (hc : c.contains k = false) (columns : List ColumnValue)
    (relations : List RelationValue) :
    (c.track k i columns relations).instances = (k, i) :: c.instances :=
  KeyMap.insert_of_new hc i

/-- A baseline that was taken from an instance of the type: a value for every column. -/
def IsBaseline (S : Schema) (entity : String) (columns : List ColumnValue)
    (relations : List RelationValue) : Prop :=
  ∃ m, S.metadata entity = .ok m ∧
    columns.map ColumnValue.column = m.simpleFields.map PersistentField.column ∧
    relations.map RelationValue.column = m.references.map fun f => f.1.column

theorem isBaseline_of_values {columns : List ColumnValue} {relations : List RelationValue}
    (hc : h.columnValues S i = .ok columns) (hr : h.relationValues S i = .ok relations) :
    IsBaseline S (h.typeOf i) columns relations := by
  obtain ⟨m, hm, hcolumns⟩ := Heap.columnValues_eq_ok.1 hc
  obtain ⟨m', hm', hrelations⟩ := Heap.relationValues_eq_ok.1 hr
  rw [hm] at hm'
  cases hm'
  exact ⟨m, hm, (map_eq_map_of_forall₂ (hcolumns.imp fun _ _ h => h.1.symm)).symm,
    (map_eq_map_of_forall₂ (hrelations.imp fun _ _ h => h.2.1.symm)).symm⟩

/-! ## A context in order -/

/-- An entry of a context in order. -/
structure Entry (S : Schema) (h : Heap) (c : Context) (e : EntityKey × InstanceId) : Prop where
  id_ne_null : e.1.id ≠ .null
  isInstance : ∃ x, h.instances[e.2]? = some x ∧ x.entity = e.1.entity
  baseline : ∃ columns relations, c.columns.get? e.1 = some columns ∧
    c.relations.get? e.1 = some relations ∧ IsBaseline S e.1.entity columns relations

/-- A context in order. -/
structure Sound (S : Schema) (h : Heap) (c : Context) : Prop where
  distinct : c.instances.Distinct
  entry : ∀ e ∈ c.instances, Entry S h c e

theorem Entry.typeOf {e : EntityKey × InstanceId} (he : Entry S h c e) :
    h.typeOf e.2 = e.1.entity := by
  obtain ⟨x, hx, hentity⟩ := he.isInstance
  rw [Heap.typeOf_of_some hx, hentity]

theorem sound_empty (S : Schema) (h : Heap) : Sound S h .empty :=
  ⟨.nil, fun _ he => nomatch he⟩

namespace Sound

/-- An entry is what is tracked under its key. -/
theorem get?_of_mem (hc : Sound S h c) {e : EntityKey × InstanceId} (he : e ∈ c.instances)
    (hk : (e.1 == k) = true) : c.get? k = some e.2 :=
  KeyMap.get?_of_mem hc.distinct he hk

/-- What is tracked has the type of its key. -/
theorem typeOf (hc : Sound S h c) (hi : c.get? k = some i) : h.typeOf i = k.entity := by
  obtain ⟨e, he, hek, rfl⟩ := KeyMap.mem_of_get? hi
  rw [(hc.entry e he).typeOf, ((EntityKey.beq_iff _ _).1 hek).1]

theorem of_keepsTypes (hc : Sound S h c) (hh : h.KeepsTypes h') : Sound S h' c := by
  refine ⟨hc.distinct, fun e he => ?_⟩
  have hentry := hc.entry e he
  obtain ⟨x, hx, hentity⟩ := hentry.isInstance
  obtain ⟨y, hy, hyx⟩ := hh e.2 x hx
  exact ⟨hentry.id_ne_null, ⟨y, hy, hyx.trans hentity⟩, hentry.baseline⟩

/-- Entries whose baselines are left alone stay in order. -/
theorem entry_of_baseline {e : EntityKey × InstanceId} (he : Entry S h c e)
    (hcolumns : c'.columns.get? e.1 = c.columns.get? e.1)
    (hrelations : c'.relations.get? e.1 = c.relations.get? e.1) : Entry S h c' e := by
  refine ⟨he.id_ne_null, he.isInstance, ?_⟩
  rw [hcolumns, hrelations]
  exact he.baseline

theorem put (hc : Sound S h c) (h₁ : c.put S h i = .ok c') : Sound S h c' := by
  obtain ⟨k, hk, hnull, ⟨-, rfl⟩ | ⟨hnew, columns, relations, hcolumns, hrelations, rfl⟩⟩ :=
    put_eq_ok h₁
  · exact hc
  obtain ⟨hid, htype⟩ := Heap.key_eq_ok.1 hk
  obtain ⟨x, hx⟩ := Heap.exists_of_id hid
  refine ⟨KeyMap.distinct_insert_of_new hc.distinct hnew i, fun e he => ?_⟩
  rw [instances_track hnew] at he
  rcases List.mem_cons.1 he with rfl | he
  · refine ⟨hnull, ⟨x, hx, ?_⟩, columns, relations, ?_, ?_, ?_⟩
    · rw [← htype, Heap.typeOf_of_some hx]
    · exact (KeyMap.get?_insert ..).trans (if_pos BEq.rfl)
    · exact (KeyMap.get?_insert ..).trans (if_pos BEq.rfl)
    · exact htype ▸ isBaseline_of_values hcolumns hrelations
  · have hne : ¬(k == e.1) = true := by
      rw [BEq.comm, KeyMap.contains_eq_false.1 hnew e he]
      exact Bool.false_ne_true
    exact entry_of_baseline (hc.entry e he)
      ((KeyMap.get?_insert ..).trans (if_neg hne)) ((KeyMap.get?_insert ..).trans (if_neg hne))

theorem remove (hc : Sound S h c) (k : EntityKey) : Sound S h (c.remove k) := by
  refine ⟨KeyMap.distinct_erase hc.distinct k, fun e he => ?_⟩
  obtain ⟨he, hek⟩ := KeyMap.mem_erase.1 he
  have hne : ¬(k == e.1) = true := by
    rw [BEq.comm, hek]
    exact Bool.false_ne_true
  exact entry_of_baseline (hc.entry e he)
    ((KeyMap.get?_erase ..).trans (if_neg hne)) ((KeyMap.get?_erase ..).trans (if_neg hne))

theorem refresh (hc : Sound S h c) (h₁ : c.refresh S h k = .ok c') : Sound S h c' := by
  rcases refresh_eq_ok h₁ with ⟨-, rfl⟩ | ⟨i, columns, relations, hi, hcolumns, hrelations, rfl⟩
  · exact hc
  refine ⟨hc.distinct, fun e he => ?_⟩
  have hentry := hc.entry e he
  by_cases hke : (k == e.1) = true
  · have hei : c.get? k = some e.2 := hc.get?_of_mem he (BEq.symm hke)
    rw [hi, Option.some.injEq] at hei
    subst hei
    refine ⟨hentry.id_ne_null, hentry.isInstance, columns, relations, ?_, ?_, ?_⟩
    · exact (KeyMap.get?_insert ..).trans (if_pos hke)
    · exact (KeyMap.get?_insert ..).trans (if_pos hke)
    · exact hentry.typeOf ▸ isBaseline_of_values hcolumns hrelations
  · exact entry_of_baseline hentry
      ((KeyMap.get?_insert ..).trans (if_neg hke)) ((KeyMap.get?_insert ..).trans (if_neg hke))

end Sound

/-! ## Keys -/

/-- Every tracked instance has the key that it is tracked under. -/
def Identified (S : Schema) (h : Heap) (c : Context) : Prop :=
  ∀ e ∈ c.instances, h.key S e.2 = .ok e.1

theorem identified_empty (S : Schema) (h : Heap) : Identified S h .empty := fun _ he => nomatch he

namespace Identified

/-- What is tracked under a key has the same one. -/
theorem get? (hc : Identified S h c) (hi : c.get? k = some i) :
    ∃ j, h.key S i = .ok j ∧ (j == k) = true := by
  obtain ⟨e, he, hek, rfl⟩ := KeyMap.mem_of_get? hi
  exact ⟨e.1, hc e he, hek⟩

theorem of_keepsKeys (hc : Identified S h c) (hs : Sound S h c) (hh : h.KeepsKeys S h') :
    Identified S h' c :=
  fun e he => hh.key (hc e he) (hs.entry e he).id_ne_null

theorem put (hc : Identified S h c) (h₁ : c.put S h i = .ok c') : Identified S h c' := by
  obtain ⟨k, hk, -, ⟨-, rfl⟩ | ⟨hnew, columns, relations, -, -, rfl⟩⟩ := put_eq_ok h₁
  · exact hc
  · intro e he
    rw [instances_track hnew] at he
    rcases List.mem_cons.1 he with rfl | he
    · exact hk
    · exact hc e he

theorem remove (hc : Identified S h c) (k : EntityKey) : Identified S h (c.remove k) :=
  fun e he => hc e (KeyMap.mem_erase.1 he).1

theorem refresh (hc : Identified S h c) (h₁ : c.refresh S h k = .ok c') : Identified S h c' := by
  intro e he
  rw [instances_refresh h₁] at he
  exact hc e he

end Identified

end Context

/-! ## Growth -/

/-- What finding and loading leave as it is: the instances that are there, and of the session all but
the context, which grows. -/
structure Work.Grows (w v : Work δ) : Prop where
  heap : w.site.heap.Extends v.site.heap
  session : v.session = { w.session with context := v.session.context }
  context : w.session.context.Grows v.session.context

namespace Work.Grows

variable {w v u : Work δ}

theorem refl (w : Work δ) : Grows w w := ⟨.refl _, rfl, .refl _⟩

theorem trans (h : Grows w v) (h' : Grows v u) : Grows w u :=
  ⟨h.heap.trans h'.heap, by rw [h'.session, h.session], h.context.trans h'.context⟩

theorem queue (h : Grows w v) : v.session.queue = w.session.queue := by rw [h.session]

end Work.Grows

theorem Work.Growth.grows [Database δ] [Callbacks δ] {w v : Work δ} (h : Work.Growth S w v) :
    Work.Grows w v := by
  cases h with
  | site h => exact ⟨h.extends, rfl, .refl _⟩
  | tracked h => exact ⟨.refl _, rfl, Context.put_grows h⟩

theorem Work.grows_of_growth [Database δ] [Callbacks δ] {w v : Work δ}
    (h : Relation.ReflTransGen (Work.Growth S) w v) : Work.Grows w v := by
  induction h with
  | refl => exact .refl w
  | tail _ hstep ih => exact ih.trans hstep.grows

theorem Act.Via.grows [Database δ] [Callbacks δ] {α : Type} {x : Act (Work δ) α} {w : Work δ}
    (h : x.Via (Work.Growth S) w) : Work.Grows w (x.perform w).2 := Work.grows_of_growth h

/-! ## Runs of a session -/

namespace Session

/-- What a session can be called for. -/
inductive Call where
  | find (entity : String) (id : Value)
  /-- What an association of its instances asks. -/
  | ask (request : Request)
  | persist (i : InstanceId)
  | delete (i : InstanceId)
  | flush
  | close

/-- A call, or something that happens elsewhere. -/
inductive Event where
  | call (c : Call) (answer : Except Error (List InstanceId))
  | elsewhere

variable [Database δ] [Callbacks δ]

/-- What a session does when it is called.  The answer is the instances that were found. -/
def Call.act (S : Schema) : Call → Act (Work δ) (List InstanceId)
  | find entity id => Option.toList <$> Session.findById S entity id
  | ask request => World.askSession S request
  | persist i => (fun _ => []) <$> Session.persist S i
  | delete i => (fun _ => []) <$> Session.delete S i
  | flush => (fun _ => []) <$> Session.flush S
  | close => (fun _ => []) <$> Session.close S

/-- A step of a session: a call, whether it succeeds or fails, or something that happens elsewhere, to
the instances, to the outside or to the choices that the session will make. -/
inductive Step (S : Schema) : Work δ → Event → Work δ → Prop
  | call (c : Call) {w v : Work δ} {r : Except Error (List InstanceId)}
      (h : (c.act S).perform w = (r, v)) : Step S w (.call c r) v
  | elsewhere {w : Work δ} {site : Site δ} (choices : Choices) (isHeld : Bool)
      (transaction : Option TransactionId) (h : w.site.heap.KeepsTypes site.heap) :
      Step S w .elsewhere ⟨site, { w.session with choices, isHeld, transaction }⟩

/-- The states that a new session can come to. -/
def Reachable (S : Schema) (w : Work δ) : Prop :=
  ∃ site gateway loader trace, Run (Step S) ⟨site, .start gateway loader⟩ trace w

theorem reachable_start (S : Schema) (site : Site δ) (g : Gateway) (loader : Loader) :
    Reachable S ⟨site, .start g loader⟩ :=
  ⟨site, g, loader, [], .nil _⟩

theorem Reachable.step {w v : Work δ} {e : Event} (hw : Reachable S w) (h : Step S w e v) :
    Reachable S v := by
  obtain ⟨site, g, loader, trace, hrun⟩ := hw
  exact ⟨site, g, loader, _, hrun.trans (.single h)⟩

theorem Reachable.call {w : Work δ} (hw : Reachable S w) (c : Call) :
    Reachable S ((c.act S).perform w).2 :=
  hw.step (.call c rfl)

theorem Reachable.elsewhere {w : Work δ} (hw : Reachable S w) {heap : Heap}
    (h : w.site.heap.KeepsTypes heap) : Reachable S { w with site := { w.site with heap := heap } } :=
  hw.step (.elsewhere _ _ _ h)

theorem act_change (c : Call) (w : Work δ) : (c.act S).Via (Work.Change S) w := by
  cases c with
  | find entity id => exact .map _ (findById_growth entity id w).changes
  | ask request => exact (askSession_growth request w).changes
  | persist i => exact .map _ (persist_change i w)
  | delete i => exact .map _ (delete_change i w)
  | flush => exact .map _ (flush_change w)
  | close => exact .map _ (close_change w)

/-! ## The invariants -/

/-- A session in order. -/
structure Sound (S : Schema) (w : Work δ) : Prop where
  context : w.session.context.Sound S w.site.heap
  queued : ∀ a ∈ w.session.queue.pending, a.Belongs w.session.gateway w.site.heap

end Session

theorem Action.Belongs.of_keepsTypes {g : Gateway} {h h' : Heap} {a : Action} (ha : a.Belongs g h)
    (hh : h.KeepsTypes h') : a.Belongs g h' := by
  cases a with
  | insert g' entity i =>
    obtain ⟨hg, x, hx, hentity⟩ := ha
    obtain ⟨y, hy, hyx⟩ := hh i x hx
    exact ⟨hg, y, hy, hyx.trans hentity⟩
  | update => exact ha
  | delete => exact ha
  | outside => exact ha

namespace Session

theorem sound_start (S : Schema) (site : Site δ) (g : Gateway) (loader : Loader) :
    Sound S ⟨site, .start g loader⟩ :=
  ⟨Context.sound_empty S _, fun _ ha => nomatch ha⟩

theorem Sound.of_keepsTypes {w : Work δ} (hw : Sound S w) {site : Site δ}
    (hh : w.site.heap.KeepsTypes site.heap) : Sound S { w with site := site } :=
  ⟨hw.context.of_keepsTypes hh, fun a ha => (hw.queued a ha).of_keepsTypes hh⟩

variable [Database δ] [Callbacks δ]

theorem Sound.growth {w v : Work δ} (hw : Sound S w) (h : Work.Growth S w v) : Sound S v := by
  cases h with
  | site h => exact hw.of_keepsTypes h.extends.keepsTypes
  | tracked h => exact ⟨hw.context.put h, hw.queued⟩

theorem Sound.change {w v : Work δ} (hw : Sound S w) (h : Work.Change S w v) : Sound S v := by
  cases h with
  | growth h => exact hw.growth h
  | site h => exact hw.of_keepsTypes h.keepsTypes
  | untracked k => exact ⟨hw.context.remove k, hw.queued⟩
  | queued h =>
    refine ⟨hw.context, fun b hb => ?_⟩
    rcases List.mem_append.1 hb with hb | hb
    · exact hw.queued b hb
    · exact List.mem_singleton.1 hb ▸ h
  | taken => exact ⟨hw.context, fun _ ha => nomatch ha⟩
  | renewed h => exact ⟨hw.context.refresh h, hw.queued⟩
  | chosen => exact ⟨hw.context, hw.queued⟩
  | closed => exact ⟨hw.context, hw.queued⟩
  | cleared => exact ⟨Context.sound_empty S _, fun _ ha => nomatch ha⟩

theorem Sound.step {w v : Work δ} {e : Event} (hw : Sound S w) (h : Step S w e v) : Sound S v := by
  cases h with
  | call c h =>
    have hv := (act_change c w).invariant (fun _ _ h hw => Sound.change hw h) hw
    rw [h] at hv
    exact hv
  | elsewhere choices held transaction h =>
    exact ⟨hw.context.of_keepsTypes h, fun a ha => (hw.queued a ha).of_keepsTypes h⟩

theorem identified_change {w v : Work δ} (hs : Sound S w)
    (hw : w.session.context.Identified S w.site.heap) (h : Work.Change S w v) :
    v.session.context.Identified S v.site.heap := by
  have hkeys : w.session.context.Identified S v.site.heap :=
    hw.of_keepsKeys hs.context ⟨h.keepsTypes, h.keepsIds⟩
  cases h with
  | growth h =>
    cases h with
    | site => exact hkeys
    | tracked h => exact hw.put h
  | untracked k => exact hw.remove k
  | renewed h => exact hw.refresh h
  | cleared => exact Context.identified_empty S _
  | _ => exact hkeys

/-- No act of a session makes an instance lose the key that it is tracked under. -/
theorem identified_act {α : Type} {x : Act (Work δ) α} {w : Work δ} (hs : Sound S w)
    (hw : w.session.context.Identified S w.site.heap) (h : x.Via (Work.Change S) w) :
    (x.perform w).2.session.context.Identified S (x.perform w).2.site.heap := by
  refine (h.invariant (P := fun v : Work δ => Sound S v ∧ v.session.context.Identified S v.site.heap)
    ?_ ⟨hs, hw⟩).2
  exact fun _ _ hstep hv => ⟨hv.1.change hstep, identified_change hv.1 hv.2 hstep⟩

/-- Whatever a session is called for, it stays in order. -/
theorem Reachable.sound {w : Work δ} (h : Reachable S w) : Sound S w := by
  obtain ⟨site, g, loader, trace, hrun⟩ := h
  exact hrun.invariant (P := Sound S) (fun _ _ hstep hs => hs.step hstep) (sound_start S site g loader)

end Session

end EntitySession
