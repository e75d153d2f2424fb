import EntitySession.Proofs.Metadata
import EntitySession.Proofs.Rearrangements
import EntitySession.Proofs.Tracking

/-!
# What is dirty

A tracked instance is dirty when its columns differ from the baseline of its key.  In a context in order
it does not matter whether one asks for a key or goes through the entries
(`Context.Sound.isDirty_of_mem`), so the scan of a flush finds the entries whose keys are dirty, in the
order in which it looks at them (`Context.dirtyAmong_eq_ok`).

To make the present state of an instance its baseline leaves nothing dirty under its key
(`Context.clean_refresh`), and what was clean elsewhere stays so.
-/

set_option autoImplicit false

namespace EntitySession

variable {S : Schema} {h : Heap} {c c' : Context} {k : EntityKey} {i : InstanceId}

/-! ## Comparing with a baseline -/

instance : ReflBEq ColumnValue where
  rfl {a} := by
    change (a.column == a.column && a.value == a.value) = true
    simp

namespace Context

/-- An instance agrees with a baseline when its simple columns are the same one by one, and its
references are the same in some order. -/
theorem differs_eq_false {columns : List ColumnValue} {relations : List RelationValue} :
    differs S h i columns relations = .ok false ↔ ∃ current m, h.columnValues S i = .ok current ∧
      (current == columns) = true ∧ S.metadata (h.typeOf i) = .ok m ∧
        (m.hasReferences = true → ∃ values, h.relationValues S i = .ok values ∧
          sameRelations values relations = true) := by
  constructor
  · intro h₁
    obtain ⟨current, hcurrent, h₁⟩ := bind_eq_ok.1 h₁
    split at h₁
    · cases h₁
    · next hsame =>
      obtain ⟨m, hm, h₁⟩ := bind_eq_ok.1 h₁
      refine ⟨current, m, hcurrent, by simpa [bne] using hsame, hm, fun hreferences => ?_⟩
      rw [if_pos hreferences] at h₁
      obtain ⟨values, hvalues, h₁⟩ := bind_eq_ok.1 h₁
      exact ⟨values, hvalues, by simpa using Except.ok.inj h₁⟩
  · rintro ⟨current, m, hcurrent, hsame, hm, hreferences⟩
    refine bind_eq_ok.2 ⟨current, hcurrent, ?_⟩
    rw [if_neg (by simp [bne, hsame])]
    refine bind_eq_ok.2 ⟨m, hm, ?_⟩
    split
    · next hm =>
      obtain ⟨values, hvalues, hsame⟩ := hreferences hm
      exact bind_eq_ok.2 ⟨values, hvalues, by rw [hsame]; rfl⟩
    · rfl

/-- Nothing differs from its own values. -/
theorem differs_self {columns : List ColumnValue} {relations : List RelationValue}
    (hc : h.columnValues S i = .ok columns) (hr : h.relationValues S i = .ok relations) :
    differs S h i columns relations = .ok false := by
  obtain ⟨m, hm, -⟩ := Heap.columnValues_eq_ok.1 hc
  exact differs_eq_false.2 ⟨columns, m, hc, BEq.rfl, hm, fun _ => ⟨relations, hr, sameRelations_self _⟩⟩

/-- The baseline of a key; one that is missing is empty. -/
def differsFor (S : Schema) (h : Heap) (c : Context) (e : EntityKey × InstanceId) : Except Error Bool :=
  differs S h e.2 ((c.columns.get? e.1).getD []) ((c.relations.get? e.1).getD [])

/-- No instance differs from the baseline of its key. -/
def Clean (S : Schema) (h : Heap) (c : Context) : Prop :=
  ∀ e ∈ c.instances, c.differsFor S h e = .ok false

/-- The entries whose instances have changed. -/
def dirtyEntries (S : Schema) (h : Heap) (c : Context) : List (EntityKey × InstanceId) :=
  c.instances.filter fun e =>
    match c.isDirty S h e.1 with
    | .ok dirty => dirty
    | .error _ => false

theorem isDirty_of_get? (hk : c.get? k = some i) : c.isDirty S h k = c.differsFor S h (k, i) := by
  rw [isDirty, hk]
  rfl

theorem isDirty_congr {j : EntityKey} (hkj : (k == j) = true) :
    c.isDirty S h k = c.isDirty S h j := by
  simp only [isDirty, get?, KeyMap.get?_congr _ hkj]

theorem Sound.isDirty_of_mem (hc : Sound S h c) {e : EntityKey × InstanceId} (he : e ∈ c.instances) :
    c.isDirty S h e.1 = c.differsFor S h e :=
  isDirty_of_get? (hc.get?_of_mem he BEq.rfl)

theorem Sound.mem_dirtyEntries (hc : Sound S h c) {e : EntityKey × InstanceId} :
    e ∈ c.dirtyEntries S h ↔ e ∈ c.instances ∧ c.differsFor S h e = .ok true := by
  rw [dirtyEntries, List.mem_filter]
  refine and_congr_right fun he => ?_
  rw [hc.isDirty_of_mem he]
  cases c.differsFor S h e <;> simp

/-- A dirty key is that of a dirty entry. -/
theorem Sound.mem_dirtyEntries_of_isDirty (hc : Sound S h c) (hk : c.isDirty S h k = .ok true) :
    ∃ e ∈ c.dirtyEntries S h, (e.1 == k) = true := by
  cases hi : c.get? k with
  | none =>
    rw [isDirty, hi] at hk
    cases hk
  | some i =>
    obtain ⟨e, he, hek, -⟩ := KeyMap.mem_of_get? hi
    rw [← isDirty_congr hek, hc.isDirty_of_mem he] at hk
    exact ⟨e, hc.mem_dirtyEntries.2 ⟨he, hk⟩, hek⟩

theorem Sound.distinct_dirtyEntries (hc : Sound S h c) : KeyMap.Distinct (c.dirtyEntries S h) :=
  hc.distinct.filter _

/-- If no entry is dirty, no key is. -/
theorem Sound.forall_isDirty (hc : Sound S h c) (hall : c.Clean S h) (k : EntityKey) :
    c.isDirty S h k = .ok false := by
  cases hk : c.get? k with
  | none => rw [isDirty, hk]
  | some i =>
    obtain ⟨e, he, hek, rfl⟩ := KeyMap.mem_of_get? hk
    rw [isDirty_congr (BEq.symm hek), hc.isDirty_of_mem he]
    exact hall e he

/-! ## The scan -/

theorem dirtyAmong_eq_ok {es dirty : List (EntityKey × InstanceId)}
    (h₁ : c.dirtyAmong S h es = .ok dirty) :
    (∀ e ∈ es, ∃ d, c.differsFor S h e = .ok d) ∧
      dirty = es.filter fun e =>
        match c.differsFor S h e with
        | .ok d => d
        | .error _ => false := by
  induction es generalizing dirty with
  | nil =>
    cases h₁
    exact ⟨by simp, rfl⟩
  | cons e es ih =>
    obtain ⟨d, hd, h₁⟩ := bind_eq_ok.1 h₁
    obtain ⟨others, hothers, h₁⟩ := bind_eq_ok.1 h₁
    obtain ⟨hes, rfl⟩ := ih hothers
    cases h₁
    have hd' : c.differsFor S h e = .ok d := hd
    refine ⟨List.forall_mem_cons.2 ⟨⟨d, hd'⟩, hes⟩, ?_⟩
    rw [List.filter_cons, hd']

/-- The scan of all entries finds those that are dirty, whatever the order; the others are clean. -/
theorem Sound.dirtyAmong_perm (hc : Sound S h c) {es dirty : List (EntityKey × InstanceId)}
    (hes : es.Perm c.instances) (h₁ : c.dirtyAmong S h es = .ok dirty) :
    dirty.Perm (c.dirtyEntries S h) ∧
      ∀ e ∈ c.instances, c.differsFor S h e = .ok true ∧ e ∈ dirty ∨ c.differsFor S h e = .ok false := by
  obtain ⟨hok, rfl⟩ := dirtyAmong_eq_ok h₁
  refine ⟨?_, fun e he => ?_⟩
  · have hfilter : c.dirtyEntries S h = c.instances.filter fun e =>
        match c.differsFor S h e with
        | .ok d => d
        | .error _ => false := by
      refine List.filter_congr fun e he => ?_
      rw [hc.isDirty_of_mem he]
    rw [hfilter]
    exact hes.filter _
  · obtain ⟨d, hd⟩ := hok e (hes.mem_iff.2 he)
    cases d with
    | true => exact .inl ⟨hd, List.mem_filter.2 ⟨hes.mem_iff.2 he, by rw [hd]⟩⟩
    | false => exact .inr hd

/-- What has no columns but that of its identifier is never dirty. -/
theorem Sound.columns_of_dirty (hc : Sound S h c) {e : EntityKey × InstanceId} (he : e ∈ c.instances)
    (hd : c.differsFor S h e = .ok true) {m : Metadata} (hm : S.metadata e.1.entity = .ok m) :
    m.nonIdFields ≠ [] := by
  intro hnil
  have hentry := hc.entry e he
  obtain ⟨columns, relations, hcolumns, -, m', hm', hnames, -⟩ := hentry.baseline
  rw [hm] at hm'
  cases hm'
  have hperm := (Mappings.sound_of_resolve hm).written_perm
  rw [hnil, List.perm_nil, List.append_eq_nil_iff, List.map_eq_nil_iff] at hperm
  obtain ⟨hsimple, hreferences⟩ := hperm
  rw [hsimple, List.map_nil, List.map_eq_nil_iff] at hnames
  have hvalues : h.columnValues S e.2 = .ok [] :=
    Heap.columnValues_eq_ok.2 ⟨m, hentry.typeOf ▸ hm, hsimple ▸ .nil⟩
  have hclean : c.differsFor S h e = .ok false := by
    rw [differsFor, hcolumns, hnames]
    refine differs_eq_false.2 ⟨[], m, hvalues, rfl, hentry.typeOf ▸ hm, fun hm => ?_⟩
    exact absurd hreferences (Metadata.hasReferences_iff.1 hm)
  rw [hd] at hclean
  cases hclean

/-- The scan of a context in which nothing is dirty finds nothing. -/
theorem dirtyAmong_of_clean {es : List (EntityKey × InstanceId)}
    (hclean : ∀ e ∈ es, c.differsFor S h e = .ok false) : c.dirtyAmong S h es = .ok [] := by
  induction es with
  | nil => rfl
  | cons e es ih =>
    obtain ⟨he, hes⟩ := List.forall_mem_cons.1 hclean
    refine bind_eq_ok.2 ⟨false, he, bind_eq_ok.2 ⟨[], ih hes, rfl⟩⟩

/-! ## Tracking and forgetting -/

/-- An instance is clean when it is tracked first, and the others are what they were. -/
theorem clean_put (h₁ : c.put S h i = .ok c') (hclean : c.Clean S h) : c'.Clean S h := by
  obtain ⟨k, -, -, ⟨-, rfl⟩ | ⟨hnew, columns, relations, hcolumns, hrelations, rfl⟩⟩ := put_eq_ok h₁
  · exact hclean
  intro e he
  rw [instances_track hnew] at he
  rcases List.mem_cons.1 he with rfl | he
  · rw [differsFor, track, KeyMap.get?_insert, KeyMap.get?_insert, if_pos BEq.rfl, if_pos BEq.rfl]
    exact differs_self hcolumns hrelations
  · have hne : ¬(k == e.1) = true := by
      rw [BEq.comm, KeyMap.contains_eq_false.1 hnew e he]
      exact Bool.false_ne_true
    rw [differsFor, track, KeyMap.get?_insert, KeyMap.get?_insert, if_neg hne, if_neg hne]
    exact hclean e he

/-- What is still tracked after a removal is what it was. -/
theorem clean_remove (hclean : c.Clean S h) (k : EntityKey) : (c.remove k).Clean S h := by
  intro e he
  obtain ⟨he, hek⟩ := KeyMap.mem_erase.1 he
  have hne : ¬(k == e.1) = true := by
    rw [BEq.comm, hek]
    exact Bool.false_ne_true
  rw [differsFor, remove, KeyMap.get?_erase, KeyMap.get?_erase, if_neg hne, if_neg hne]
  exact hclean e he

/-! ## Renewing a baseline -/

/-- To renew the baseline of a key leaves it clean, and nothing clean becomes dirty. -/
theorem Sound.clean_refresh (hc : Sound S h c) (h₁ : c.refresh S h k = .ok c')
    {e : EntityKey × InstanceId} (he : e ∈ c.instances)
    (hclean : (k == e.1) = true ∨ c.differsFor S h e = .ok false) :
    c'.differsFor S h e = .ok false := by
  rcases refresh_eq_ok h₁ with ⟨hk, rfl⟩ | ⟨i, columns, relations, hi, hcolumns, hrelations, rfl⟩
  · rcases hclean with hke | hclean
    · have hei := hc.get?_of_mem he (BEq.symm hke)
      rw [hk] at hei
      cases hei
    · exact hclean
  · by_cases hke : (k == e.1) = true
    · have hei := hc.get?_of_mem he (BEq.symm hke)
      rw [hi, Option.some.injEq] at hei
      subst hei
      have hself := differs_self hcolumns hrelations
      rw [differsFor, setBaseline, KeyMap.get?_insert, KeyMap.get?_insert, if_pos hke]
      simpa [hke] using hself
    · have hclean := hclean.resolve_left hke
      rw [differsFor, setBaseline, KeyMap.get?_insert, KeyMap.get?_insert, if_neg hke, if_neg hke]
      exact hclean

end Context

end EntitySession
