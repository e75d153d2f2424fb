import EntitySession.Proofs.ContextHistories
import EntitySession.Proofs.Flush

/-!
# Dirty is changed

A context does not compare field by field.  It lines up the simple columns of an instance with their
baseline, and then asks whether the references are, in some order, those of the baseline.  So a change
could hide: two references could trade their targets, and the same values would be there as before.

It cannot, because every relation value bears the name of its column, and the columns of a type are
distinct.  What is to be found of a reference in the baseline is the value of that reference or nothing
(`sameRelations_iff`).  An instance therefore differs from its baseline exactly if what is written for
one of its fields is not what it was when the baseline was taken (`Context.differs_iff`).

Along the history of a context this says what it means to be dirty (`Context.exact_of_run`): since the
key was put, or refreshed for the last time, a field has changed; not that it was written, and not that
another field has its value now.  To look for all that is dirty finds every such key once, in whatever
order the entries are looked at (`Context.Sound.lists_dirtyAmong`).
-/

set_option autoImplicit false

namespace EntitySession

variable {S : Schema}

/-! ## Comparing lists of values -/

theorem beq_iff_forall₂ {α : Type} [BEq α] {as bs : List α} :
    (as == bs) = true ↔ List.Forall₂ (fun a b => (a == b) = true) as bs := by
  induction as generalizing bs with
  | nil => cases bs <;> simp
  | cons a as ih => cases bs <;> simp [ih]

/-- Two lists that were made from the same list agree if they agree at each of its elements. -/
theorem forall₂_iff_forall {α β γ : Type} {A : γ → α → Prop} {B : γ → β → Prop} {P : α → β → Prop}
    {Q : γ → Prop} {cs : List γ} {as : List α} {bs : List β} (ha : List.Forall₂ A cs as)
    (hb : List.Forall₂ B cs bs) (hone : ∀ c ∈ cs, ∀ a b, A c a → B c b → (P a b ↔ Q c)) :
    List.Forall₂ P as bs ↔ ∀ c ∈ cs, Q c := by
  induction ha generalizing bs with
  | nil =>
    cases hb
    simp
  | cons hca _ ih =>
    cases hb with
    | cons hcb hbs =>
      rw [List.forall₂_cons, List.forall_mem_cons, hone _ List.mem_cons_self _ _ hca hcb,
        ih hbs fun c hc => hone c (List.mem_cons_of_mem _ hc)]

/-- Where columns are distinct, a relation value is found at its own column or not at all, and so the
order does not matter. -/
theorem sameRelations_iff {as bs : List RelationValue}
    (h : List.Forall₂ (fun a b => a.target = b.target ∧ a.column = b.column) as bs)
    (hcolumns : (bs.map RelationValue.column).Nodup) :
    sameRelations as bs = true ↔ List.Forall₂ (fun a b => (a.value == b.value) = true) as bs := by
  obtain ⟨hlength, hnames⟩ := List.forall₂_iff_zip.1 h
  constructor
  · intro hsame
    have hperm := sameRelations_iff_perm.1 hsame
    refine List.forall₂_iff_zip.2 ⟨hlength, fun {a b} hab => ?_⟩
    obtain ⟨ha, hb⟩ := List.of_mem_zip hab
    obtain ⟨r, hr, hfolded⟩ := List.mem_map.1 (hperm.mem_iff.1 (List.mem_map_of_mem ha))
    have halike := RelationValue.alike_iff_folded.2 hfolded
    obtain rfl : r = b := List.inj_on_of_nodup_map hcolumns hr hb (halike.column.trans (hnames hab).2)
    exact BEq.symm halike.value
  · intro hvalues
    obtain ⟨-, hvalue⟩ := List.forall₂_iff_zip.1 hvalues
    have hequal : List.Forall₂ (fun a b => (a == b) = true) as bs :=
      List.forall₂_iff_zip.2 ⟨hlength, fun {a b} hab =>
        RelationValue.beq_iff_alike.2 ⟨(hnames hab).1, (hnames hab).2, hvalue hab⟩⟩
    rw [sameRelations_congr hequal, sameRelations_self]

/-! ## Comparing with an earlier moment -/

theorem Metadata.Sound.reference_columns_nodup {m : Metadata} (hm : m.Sound) :
    (m.references.map fun f => f.1.column).Nodup := by
  have hsublist : (m.nonIdFields.map PersistentField.column).Nodup :=
    hm.columns_nodup.sublist (m.nonIdFields_sublist.map _)
  have hwritten := (hm.written_perm.map PersistentField.column).nodup_iff.2 hsublist
  rw [List.map_append, List.map_map] at hwritten
  exact (List.nodup_append.1 hwritten).2.1

variable {before now : Heap} {i : InstanceId} {m : Metadata} {columns current : List ColumnValue}
  {relations values : List RelationValue}

namespace Heap

/-- What is written for a field is not what it was. -/
def Changed (S : Schema) (before now : Heap) (i : InstanceId) (f : PersistentField) : Prop :=
  ∃ u v, before.written S i f = .ok u ∧ now.written S i f = .ok v ∧ (v == u) = false

/-- Every field other than the identifier can be read, and a reference in the form of the identifier
that it refers to. -/
def Readable (S : Schema) (h : Heap) (i : InstanceId) : Prop :=
  ∃ m, S.metadata (h.typeOf i) = .ok m ∧ ∀ f ∈ m.nonIdFields, ∃ v, h.written S i f = .ok v

theorem not_changed_iff {f : PersistentField} {u v : Value} (hu : before.written S i f = .ok u)
    (hv : now.written S i f = .ok v) : (v == u) = true ↔ ¬Changed S before now i f := by
  constructor
  · rintro hsame ⟨u', v', hu', hv', hne⟩
    rw [hu, Except.ok.injEq] at hu'
    rw [hv, Except.ok.injEq] at hv'
    subst hu' hv'
    rw [hsame] at hne
    cases hne
  · intro hsame
    by_contra hne
    exact hsame ⟨u, v, hu, hv, Bool.eq_false_iff.2 hne⟩

/-- An instance can be read if its simple columns and its join columns can. -/
theorem readable_iff {h : Heap} : h.Readable S i ↔
    (∃ columns, h.columnValues S i = .ok columns) ∧ ∃ relations, h.relationValues S i = .ok relations := by
  simp only [columnValues_eq_written, relationValues_eq_written, Readable]
  constructor
  · rintro ⟨m, hm, hfields⟩
    have hwritten := (Mappings.sound_of_resolve hm).written_perm
    have hmem : ∀ f ∈ m.simpleFields ++ m.references.map Prod.fst, ∃ v, h.written S i f = .ok v :=
      fun f hf => hfields f (hwritten.mem_iff.1 hf)
    obtain ⟨hsimple, hreferences⟩ := List.forall_mem_append.1 hmem
    have hcolumn : ∀ f ∈ m.simpleFields, ∃ c : ColumnValue,
        c.column = f.column ∧ h.written S i f = .ok c.value := by
      intro f hf
      obtain ⟨v, hv⟩ := hsimple f hf
      exact ⟨⟨f.column, v⟩, rfl, hv⟩
    have hrelation : ∀ f ∈ m.references, ∃ r : RelationValue,
        r.target = f.2 ∧ r.column = f.1.column ∧ h.written S i f.1 = .ok r.value := by
      intro f hf
      obtain ⟨v, hv⟩ := hreferences f.1 (List.mem_map_of_mem hf)
      exact ⟨⟨f.2, f.1.column, v⟩, rfl, rfl, hv⟩
    obtain ⟨columns, hcolumns⟩ := exists_forall₂_of_forall hcolumn
    obtain ⟨relations, hrelations⟩ := exists_forall₂_of_forall hrelation
    exact ⟨⟨columns, m, hm, hcolumns⟩, relations, m, hm, hrelations⟩
  · rintro ⟨⟨columns, m, hm, hcolumns⟩, relations, m', hm', hrelations⟩
    rw [hm, Except.ok.injEq] at hm'
    subst hm'
    refine ⟨m, hm, fun f hf => ?_⟩
    rcases List.mem_append.1 ((Mappings.sound_of_resolve hm).written_perm.mem_iff.2 hf) with hf | hf
    · obtain ⟨c, -, -, hc⟩ := exists_mem_zip_of_forall₂ hcolumns hf
      exact ⟨c.value, hc⟩
    · obtain ⟨g, hg, rfl⟩ := List.mem_map.1 hf
      obtain ⟨r, -, -, -, hr⟩ := exists_mem_zip_of_forall₂ hrelations hg
      exact ⟨r.value, hr⟩

/-- The simple columns are the same as before exactly if no simple field has changed. -/
theorem columnValues_beq_iff (htype : before.typeOf i = now.typeOf i)
    (hm : S.metadata (now.typeOf i) = .ok m) (hcolumns : before.columnValues S i = .ok columns)
    (hcurrent : now.columnValues S i = .ok current) :
    (current == columns) = true ↔ ∀ f ∈ m.simpleFields, ¬Changed S before now i f := by
  obtain ⟨m', hm', hcurrent⟩ := columnValues_eq_written.1 hcurrent
  obtain ⟨m'', hm'', hcolumns⟩ := columnValues_eq_written.1 hcolumns
  rw [hm, Except.ok.injEq] at hm'
  rw [htype, hm, Except.ok.injEq] at hm''
  subst hm' hm''
  rw [beq_iff_forall₂]
  refine forall₂_iff_forall hcurrent hcolumns fun f _ a b ha hb => ?_
  rw [← not_changed_iff hb.2 ha.2]
  change (a.column == b.column && a.value == b.value) = true ↔ _
  simp [ha.1, hb.1]

/-- The references are, in some order, what they were before exactly if none of them has changed. -/
theorem sameRelations_relationValues_iff (htype : before.typeOf i = now.typeOf i)
    (hm : S.metadata (now.typeOf i) = .ok m) (hrelations : before.relationValues S i = .ok relations)
    (hvalues : now.relationValues S i = .ok values) :
    sameRelations values relations = true ↔ ∀ f ∈ m.references, ¬Changed S before now i f.1 := by
  obtain ⟨m', hm', hvalues⟩ := relationValues_eq_written.1 hvalues
  obtain ⟨m'', hm'', hrelations⟩ := relationValues_eq_written.1 hrelations
  rw [hm, Except.ok.injEq] at hm'
  rw [htype, hm, Except.ok.injEq] at hm''
  subst hm' hm''
  have hnames : relations.map RelationValue.column = m.references.map fun f => f.1.column :=
    (map_eq_map_of_forall₂ (hrelations.imp fun _ _ h => h.2.1.symm)).symm
  have halike : List.Forall₂ (fun a b => a.target = b.target ∧ a.column = b.column) values relations := by
    refine (forall₂_iff_forall (Q := fun _ => True) hvalues hrelations fun f _ a b ha hb => ?_).2
      fun _ _ => trivial
    simp [ha.1, ha.2.1, hb.1, hb.2.1]
  have hcolumns := (Mappings.sound_of_resolve hm).reference_columns_nodup
  rw [← hnames] at hcolumns
  rw [sameRelations_iff halike hcolumns]
  exact forall₂_iff_forall hvalues hrelations fun f _ a b ha hb => not_changed_iff hb.2.2 ha.2.2

end Heap

namespace Context

theorem differs_of_readable (hnow : now.Readable S i) (columns : List ColumnValue)
    (relations : List RelationValue) : ∃ dirty, differs S now i columns relations = .ok dirty := by
  obtain ⟨⟨current, hcurrent⟩, values, hvalues⟩ := Heap.readable_iff.1 hnow
  obtain ⟨m, hm, -⟩ := hnow
  simp only [differs, bind_eq_ok, hcurrent, Except.ok.injEq, exists_eq_left']
  split
  · exact ⟨true, rfl⟩
  · simp only [bind_eq_ok, hm, Except.ok.injEq, exists_eq_left']
    split
    · exact ⟨_, bind_eq_ok.2 ⟨values, hvalues, rfl⟩⟩
    · exact ⟨false, rfl⟩

/-- An instance that can be read differs from its baseline exactly if a field has changed since. -/
theorem differs_iff (htype : before.typeOf i = now.typeOf i) (hm : S.metadata (now.typeOf i) = .ok m)
    (hnow : now.Readable S i) (hcolumns : before.columnValues S i = .ok columns)
    (hrelations : before.relationValues S i = .ok relations) :
    ∃ dirty, differs S now i columns relations = .ok dirty ∧
      (dirty = true ↔ ∃ f ∈ m.nonIdFields, Heap.Changed S before now i f) := by
  obtain ⟨⟨current, hcurrent⟩, values, hvalues⟩ := Heap.readable_iff.1 hnow
  have hwritten := (Mappings.sound_of_resolve hm).written_perm
  have hsimple := Heap.columnValues_beq_iff htype hm hcolumns hcurrent
  have hreferences := Heap.sameRelations_relationValues_iff htype hm hrelations hvalues
  have hfields : (∀ f ∈ m.nonIdFields, ¬Heap.Changed S before now i f) ↔
      (∀ f ∈ m.simpleFields, ¬Heap.Changed S before now i f) ∧
        ∀ f ∈ m.references, ¬Heap.Changed S before now i f.1 := by
    simp only [← hwritten.mem_iff, List.forall_mem_append, List.forall_mem_map]
  have hclean : differs S now i columns relations = .ok false ↔
      ∀ f ∈ m.nonIdFields, ¬Heap.Changed S before now i f := by
    rw [hfields, differs_eq_false]
    constructor
    · rintro ⟨current', m', hcurrent', hsame, hm', hrest⟩
      rw [hcurrent, Except.ok.injEq] at hcurrent'
      rw [hm, Except.ok.injEq] at hm'
      subst hcurrent' hm'
      refine ⟨hsimple.1 hsame, fun f hf => ?_⟩
      obtain ⟨values', hvalues', hsame⟩ := hrest (Metadata.hasReferences_iff.2 (List.ne_nil_of_mem hf))
      rw [hvalues, Except.ok.injEq] at hvalues'
      subst hvalues'
      exact hreferences.1 hsame f hf
    · rintro ⟨hcolumns, hrest⟩
      exact ⟨current, m, hcurrent, hsimple.2 hcolumns, hm, fun _ => ⟨values, hvalues, hreferences.2 hrest⟩⟩
  obtain ⟨dirty, hdirty⟩ := differs_of_readable hnow columns relations
  refine ⟨dirty, hdirty, ?_⟩
  rw [hdirty, Except.ok.injEq] at hclean
  rw [← Bool.not_eq_false, hclean]
  push Not
  rfl

/-! ## Looking for all that is dirty -/

variable {h : Heap} {c : Context}

/-- A list of the dirty entries of a context: it has the instance of every dirty key, and nothing
twice. -/
structure Lists (S : Schema) (h : Heap) (c : Context) (dirty : List (EntityKey × InstanceId)) :
    Prop where
  distinct : KeyMap.Distinct dirty
  tracked : ∀ e ∈ dirty, c.get? e.1 = some e.2
  keys : ∀ k, KeyMap.contains dirty k = true ↔ c.isDirty S h k = .ok true

theorem dirtyAmong_of_forall {es : List (EntityKey × InstanceId)}
    (hes : ∀ e ∈ es, ∃ d, c.differsFor S h e = .ok d) : ∃ dirty, c.dirtyAmong S h es = .ok dirty := by
  induction es with
  | nil => exact ⟨[], rfl⟩
  | cons e es ih =>
    obtain ⟨⟨d, hd⟩, hes⟩ := List.forall_mem_cons.1 hes
    obtain ⟨dirty, hdirty⟩ := ih hes
    exact ⟨_, bind_eq_ok.2 ⟨d, hd, bind_eq_ok.2 ⟨dirty, hdirty, rfl⟩⟩⟩

/-- The scan finds the dirty entries, in whatever order it looks at them. -/
theorem Sound.lists_dirtyAmong (hc : Sound S h c) {es dirty : List (EntityKey × InstanceId)}
    (hes : es.Perm c.instances) (hdirty : c.dirtyAmong S h es = .ok dirty) : Lists S h c dirty := by
  have hperm := (hc.dirtyAmong_perm hes hdirty).1
  have hmem : ∀ e ∈ dirty, e ∈ c.instances ∧ c.differsFor S h e = .ok true :=
    fun e he => hc.mem_dirtyEntries.1 (hperm.mem_iff.1 he)
  refine ⟨hc.distinct_dirtyEntries.perm hperm, fun e he => hc.get?_of_mem (hmem e he).1 BEq.rfl,
    fun k => ?_⟩
  rw [KeyMap.contains, List.any_eq_true]
  constructor
  · rintro ⟨e, he, hek⟩
    rw [← isDirty_congr hek, hc.isDirty_of_mem (hmem e he).1]
    exact (hmem e he).2
  · intro hk
    obtain ⟨e, he, hek⟩ := hc.mem_dirtyEntries_of_isDirty hk
    exact ⟨e, hperm.mem_iff.2 he, hek⟩

end Context

/-! ## Histories -/

namespace Context

variable {δ : Type} {w v : Work δ} {e : Event} {trace : List (Moment δ)} {k : EntityKey}

/-- A step of a context in whose course all instances stay what they are. -/
def TypedStep (S : Schema) (w : Work δ) (e : Event) (v : Work δ) : Prop :=
  Step S w e v ∧ w.site.heap.KeepsTypes v.site.heap

theorem Sound.change {h : Heap} {c c' : Context} {call : Call} (hc : Sound S h c)
    (hchange : call.change S h c = .ok c') : Sound S h c' := by
  cases call with
  | put i => exact hc.put hchange
  | delete i =>
    obtain ⟨k, -, hremove⟩ := bind_eq_ok.1 hchange
    cases hremove
    exact hc.remove k
  | remove k =>
    cases hchange
    exact hc.remove k
  | refresh k => exact hc.refresh hchange
  | clear =>
    cases hchange
    exact sound_empty S h

theorem Sound.typedStep (hw : Sound S w.site.heap w.session.context) (hstep : TypedStep S w e v) :
    Sound S v.site.heap v.session.context := by
  obtain ⟨hstep, htypes⟩ := hstep
  cases hstep with
  | called h =>
    obtain ⟨-, c, hchange, rfl⟩ | ⟨-, rfl⟩ := Call.perform_act h
    · exact hw.change hchange
    · exact hw
  | elsewhere h =>
    rw [h]
    exact hw.of_keepsTypes htypes

theorem Sound.of_run (hw : w.session.context = .empty) (h : Run (TypedStep S) w trace v) :
    Sound S v.site.heap v.session.context :=
  h.invariant (P := fun w : Work δ => Sound S w.site.heap w.session.context)
    (fun _ _ hx hbefore => hbefore.typedStep hx) (hw ▸ sound_empty S _)

/-- The latest moment at which the baseline of a key was taken: its instance was put, or the key was
refreshed, and since then it has been tracked and not refreshed again. -/
structure LastTaken (S : Schema) (trace : List (Moment δ)) (k : EntityKey) (i : InstanceId)
    (taken : Moment δ) : Prop where
  event : Starts S k i taken ∨ taken.event.Refreshes k
  since : ∃ old rest, trace = old ++ taken :: rest ∧
    (∀ x ∈ taken :: rest, x.after.session.context.get? k = some i) ∧ ∀ x ∈ rest, ¬x.event.Refreshes k

theorem Traced.lastTaken {c : Context} (h : Traced S trace c k i) :
    ∃ taken, LastTaken S trace k i taken ∧ Snapshot S taken.before.site.heap c k i := by
  obtain ⟨old, started, since, rfl, hstarts, htracked, front, taken, rest, hsplit, htaken, hrest,
    hsnapshot⟩ := h
  refine ⟨taken, ⟨?_, old ++ front, rest, by simp [hsplit], fun x hx => ?_, hrest⟩, hsnapshot⟩
  · rcases htaken with rfl | htaken
    · obtain ⟨rfl, rfl⟩ := List.cons.inj hsplit
      exact .inl hstarts
    · exact .inr htaken
  · exact htracked x (hsplit ▸ List.mem_append_right front hx)

/-- A call of the context leaves all instances alone. -/
theorem Step.site_of_called {call : Call} {result : Except Error Unit}
    (hstep : Step S w (.called call result) v) : v.site = w.site := by
  cases hstep with
  | called h =>
    obtain ⟨-, c, -, rfl⟩ | ⟨-, rfl⟩ := Call.perform_act h <;> rfl

theorem LastTaken.site {taken : Moment δ} (h : LastTaken S trace k i taken)
    (hstep : Step S taken.before taken.event taken.after) : taken.after.site = taken.before.site := by
  rcases h.event with hstarts | ⟨j, -, hevent⟩
  · rw [hstarts.event] at hstep
    exact hstep.site_of_called
  · rw [hevent] at hstep
    exact hstep.site_of_called

/-- A context tells exactly what has changed. -/
structure Exact (S : Schema) (trace : List (Moment δ)) (w : Work δ) : Prop where
  /-- A tracked key is dirty if a field of its instance is not what it was at the latest baseline. -/
  key : ∀ k i, w.session.context.get? k = some i → w.site.heap.Readable S i →
    ∃ taken m, LastTaken S trace k i taken ∧ S.metadata k.entity = .ok m ∧
      ∃ dirty, w.session.context.isDirty S w.site.heap k = .ok dirty ∧
        (dirty = true ↔
          ∃ f ∈ m.nonIdFields, Heap.Changed S taken.before.site.heap w.site.heap i f)
  /-- If everything can be read, all dirty keys are found, whatever the order. -/
  entries : (∀ k i, w.session.context.get? k = some i → w.site.heap.Readable S i) →
    ∀ es, List.Perm es w.session.context.instances →
      ∃ dirty, w.session.context.dirtyAmong S w.site.heap es = .ok dirty ∧
        Lists S w.site.heap w.session.context dirty

/-- **Dirty is changed.**  Whatever a context that began empty was called for, and whatever has become of
the instances in between, as long as they stay of their types: a tracked key whose instance can be read
is dirty exactly if one of the fields other than the identifier is not written with the value that it
had when the key was put or last refreshed; and to look for all that is dirty finds exactly those keys,
each once, in whatever order it looks. -/
theorem exact_of_run (hw : w.session.context = .empty) (h : Run (TypedStep S) w trace v) :
    Exact S trace v := by
  have hsound := Sound.of_run hw h
  have htraced : ∀ k i, v.session.context.get? k = some i → Traced S trace v.session.context k i := by
    refine h.history (P := fun trace w => ∀ k i, w.session.context.get? k = some i →
      Traced S trace w.session.context k i)
      (fun first x hx htraced k i hi => Traced.step hx.1 htraced hi) fun k i hi => ?_
    rw [hw] at hi
    cases hi
  refine ⟨fun k i hi hreadable => ?_, fun hreadable es hes => ?_⟩
  · obtain ⟨taken, htaken, columns, relations, hcolumns, hrelations, hc, hr⟩ :=
      (htraced k i hi).lastTaken
    obtain ⟨old, rest, rfl, hsince, -⟩ := htaken.since
    -- the instance was of its present type when the baseline was taken
    have hfirst : Run (TypedStep S) w (old ++ [taken]) taken.after :=
      h.split.1.trans (.single h.split.2.1)
    have hbefore : taken.before.site.heap.typeOf i = v.site.heap.typeOf i := by
      rw [← htaken.site h.split.2.1.1, hsound.typeOf hi,
        (Sound.of_run hw hfirst).typeOf (hsince taken List.mem_cons_self)]
    obtain ⟨m, hm, -⟩ := id hreadable
    refine ⟨taken, m, htaken, hsound.typeOf hi ▸ hm, ?_⟩
    rw [isDirty_of_get? hi, differsFor, hc, hr]
    exact differs_iff hbefore hm hreadable hcolumns hrelations
  · have hok : ∀ e ∈ es, ∃ d, v.session.context.differsFor S v.site.heap e = .ok d := by
      intro e he
      have hi := hsound.get?_of_mem (hes.mem_iff.1 he) BEq.rfl
      exact differs_of_readable (hreadable e.1 e.2 hi) _ _
    obtain ⟨dirty, hdirty⟩ := dirtyAmong_of_forall hok
    exact ⟨dirty, hdirty, hsound.lists_dirtyAmong hes hdirty⟩

end Context

/-! ### A match whose clubs trade places -/

namespace Matches

/-- A club: a number. -/
def clubs : Declaration :=
  { entity := "Club"
    marked := true
    table := none
    fields := [⟨{ Field.simple "id" .bigInt with isId := true }, .anyValue⟩]
    constructionFault := none
    bindable := true }

/-- A club that plays in a match. -/
def side (name : String) : DeclaredField :=
  ⟨{ Field.simple name .text with association := some ⟨.manyToOne, "Club", none, .list, none⟩ },
    .container (.reference "Club" .empty) true⟩

/-- A match: a number, a title and the two clubs. -/
def games : Declaration :=
  { entity := "Match"
    marked := true
    table := none
    fields :=
      [⟨{ Field.simple "id" .bigInt with isId := true }, .anyValue⟩,
       ⟨Field.simple "title" .text, .anyValue⟩, side "home", side "away"]
    constructionFault := none
    bindable := true }

/-- Matches and clubs are the only entities. -/
def schema : Schema := Declaration.schema [games, clubs]

/-- A match of two clubs. -/
def record (home away : InstanceId) : Record :=
  ⟨[("id", .bigInt 1), ("title", .text "Final")],
    [("home", .reference "Club" (.loaded home)), ("away", .reference "Club" (.loaded away))]⟩

/-- A match of the clubs 5 and 6, which are the instances 1 and 2. -/
def ground : Work Unit :=
  let heap := (Heap.empty.add "Match" (record 1 2)).2
  let heap := (heap.add "Club" ⟨[("id", .bigInt 5)], []⟩).2
  let heap := (heap.add "Club" ⟨[("id", .bigInt 6)], []⟩).2
  { site := { heap, outside := (), log := [] }, session := .start ⟨0, false⟩ .outside }

/-- The match is put. -/
def put : Except Error Unit × Work Unit := ((Context.Call.put 0).act schema).perform ground

/-- The same clubs play, at the places given. -/
def placed (home away : InstanceId) : Work Unit :=
  { put.2 with site := { put.2.site with heap := put.2.site.heap.setRecord 0 (record home away) } }

/-- The match is put, and then its clubs are placed anew. -/
def trace (home away : InstanceId) : List (Context.Moment Unit) :=
  [⟨ground, .called (.put 0) put.1, put.2⟩, ⟨put.2, .elsewhere, placed home away⟩]

theorem run_trace (home away : InstanceId) :
    Run (Context.TypedStep schema) ground (trace home away) (placed home away) := by
  have hput : Context.Step schema ground (.called (.put 0) put.1) put.2 := .called rfl
  exact .cons ⟨hput, hput.site_of_called ▸ .refl _⟩
    (.single ⟨.elsewhere rfl, Heap.setRecord_keepsTypes _ 0 _⟩)

/-- The key of the match. -/
def key : EntityKey := ⟨"Match", .bigInt 1⟩

/-- Whether the match is dirty. -/
def dirty? (w : Work Unit) : Option Bool :=
  (w.session.context.isDirty schema w.site.heap key).toOption

/-- The clubs trade places, and the match is dirty, although its join columns hold between them the
values that they held before; with the clubs where they were it is not. -/
theorem exact_of_run_placed :
    ground.session.context = .empty ∧ Context.Exact schema (trace 2 1) (placed 2 1) ∧
      Context.Exact schema (trace 1 2) (placed 1 2) ∧
      (placed 2 1).session.context.get? key = some 0 ∧ (placed 2 1).site.heap.Readable schema 0 ∧
      dirty? (placed 2 1) = some true ∧ dirty? (placed 1 2) = some false := by
  refine ⟨rfl, Context.exact_of_run rfl (run_trace 2 1), Context.exact_of_run rfl (run_trace 1 2), ?_,
    Heap.readable_iff.2 ⟨exists_of_isOk ?_, exists_of_isOk ?_⟩, ?_, ?_⟩
  all_goals decide +kernel

end Matches

end EntitySession
