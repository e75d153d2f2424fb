import EntitySession.Context

/-!
# Maps with one entry a key

A `KeyMap` is a list of entries, and nothing in its type keeps two of them from having the same key.
The maps of a context never do (`KeyMap.Distinct`), and then to be an entry and to be found under the
key of one is the same (`KeyMap.get?_of_mem`).
-/

set_option autoImplicit false

namespace EntitySession.KeyMap

variable {α : Type} {m : KeyMap α} {k : EntityKey}

/-- No two entries have the same key. -/
def Distinct (m : KeyMap α) : Prop := m.Pairwise fun a b => (a.1 == b.1) = false

theorem Distinct.perm {m' : KeyMap α} (hm : m.Distinct) (h : List.Perm m' m) : m'.Distinct := by
  refine (h.pairwise_iff fun {a b} hab => ?_).2 hm
  rwa [BEq.comm]

theorem Distinct.nodup (hm : m.Distinct) : m.Nodup := by
  refine hm.imp fun {a b} hab heq => ?_
  rw [heq, BEq.rfl] at hab
  cases hab

theorem mem_of_get? {x : α} (h : m.get? k = some x) : ∃ e ∈ m, (e.1 == k) = true ∧ e.2 = x := by
  rw [get?, Option.map_eq_some_iff] at h
  obtain ⟨e, he, rfl⟩ := h
  have hek := List.find?_some he
  exact ⟨e, List.mem_of_find?_eq_some he, hek, rfl⟩

theorem get?_eq_none : m.get? k = none ↔ ∀ e ∈ m, (e.1 == k) = false := by
  rw [get?, Option.map_eq_none_iff, List.find?_eq_none]
  simp only [Bool.not_eq_true]

theorem contains_eq_false : m.contains k = false ↔ ∀ e ∈ m, (e.1 == k) = false := by
  rw [contains_eq_isSome_get?, Option.isSome_eq_false_iff, Option.isNone_iff_eq_none, get?_eq_none]

theorem contains_congr {j : EntityKey} (h : (k == j) = true) : m.contains k = m.contains j := by
  rw [contains_eq_isSome_get?, contains_eq_isSome_get?, get?_congr m h]

/-- Where keys are distinct, an entry is what is found under its key. -/
theorem get?_of_mem (hm : m.Distinct) {e : EntityKey × α} (he : e ∈ m) (hk : (e.1 == k) = true) :
    m.get? k = some e.2 := by
  induction m with
  | nil => cases he
  | cons d m ih =>
    rw [get?_cons]
    obtain ⟨hd, hm⟩ := List.pairwise_cons.1 hm
    rcases List.mem_cons.1 he with rfl | he
    · rw [if_pos hk]
    · have hdk : ¬(d.1 == k) = true := by
        intro h
        have hde : (d.1 == e.1) = true := BEq.trans h (BEq.symm hk)
        rw [hd e he] at hde
        cases hde
      rw [if_neg hdk]
      exact ih hm he

theorem insert_of_new (h : m.contains k = false) (x : α) : m.insert k x = (k, x) :: m := by
  rw [insert, h]
  rfl

theorem mem_erase {e : EntityKey × α} : e ∈ m.erase k ↔ e ∈ m ∧ (e.1 == k) = false := by
  simp [erase]

theorem distinct_insert_of_new (hm : m.Distinct) (h : m.contains k = false) (x : α) :
    (m.insert k x).Distinct := by
  rw [insert_of_new h]
  refine List.pairwise_cons.2 ⟨fun e he => ?_, hm⟩
  rw [Bool.eq_false_iff]
  intro hke
  have hek : (e.1 == k) = true := BEq.symm hke
  rw [contains_eq_false.1 h e he] at hek
  cases hek

theorem distinct_erase (hm : m.Distinct) (k : EntityKey) : (m.erase k).Distinct := hm.filter _

/-! ## Maps with the same keys -/

theorem contains_eq_any_keys : m.contains k = m.keys.any fun j => j == k := by
  rw [keys, List.any_map]
  rfl

theorem keys_erase : (m.erase k).keys = m.keys.filter fun j => !(j == k) := by
  rw [keys, keys, List.filter_map]
  rfl

theorem keys_insert (x : α) : (m.insert k x).keys = if m.contains k then m.keys else k :: m.keys := by
  rw [insert]
  split
  · rw [keys, keys, List.map_map]
    refine List.map_congr_left fun e _ => ?_
    rw [Function.comp_apply]
    split <;> rfl
  · rfl

variable {β : Type} {m' : KeyMap β}

theorem contains_of_keys (h : m.keys = m'.keys) : m.contains k = m'.contains k := by
  rw [contains_eq_any_keys, contains_eq_any_keys, h]

theorem keys_insert_of_keys (h : m.keys = m'.keys) (x : α) (y : β) :
    (m.insert k x).keys = (m'.insert k y).keys := by
  rw [keys_insert, keys_insert, contains_of_keys h, h]

theorem keys_erase_of_keys (h : m.keys = m'.keys) : (m.erase k).keys = (m'.erase k).keys := by
  rw [keys_erase, keys_erase, h]

end EntitySession.KeyMap
