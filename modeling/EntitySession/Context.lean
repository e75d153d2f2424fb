import EntitySession.Choices
import EntitySession.Heap

/-!
# The persistence context

The context of a session tracks instances by their keys and keeps, for each key, the values that the
columns of the instance had when it was last known to agree with the database.  The first instance put
under a key stays: putting another one, or the same one again, changes nothing, so a change made in
the meantime still shows as a difference from the baseline.

An instance is dirty when its columns differ from the baseline of its key.  Simple columns are
compared one by one.  References are compared as an unordered collection, and only where the type has
any.

The three maps always have the same keys; `EntitySession.Context.track` and
`EntitySession.Context.remove` are the only operations that add or remove one.
-/

set_option autoImplicit false

namespace EntitySession

/-- A map from keys, the latest entry first. -/
abbrev KeyMap (α : Type) : Type := List (EntityKey × α)

namespace KeyMap

variable {α : Type}

/-- The entry of a key. -/
def get? (m : KeyMap α) (k : EntityKey) : Option α :=
  (m.find? fun e => e.1 == k).map Prod.snd

/-- Whether a key has an entry. -/
def contains (m : KeyMap α) (k : EntityKey) : Bool := m.any fun e => e.1 == k

/-- The map with an entry for a key. -/
def insert (m : KeyMap α) (k : EntityKey) (x : α) : KeyMap α :=
  if m.contains k then m.map fun e => if e.1 == k then (e.1, x) else e else (k, x) :: m

/-- The map without an entry for a key. -/
def erase (m : KeyMap α) (k : EntityKey) : KeyMap α := m.filter fun e => !(e.1 == k)

/-- The keys with an entry. -/
def keys (m : KeyMap α) : List EntityKey := m.map Prod.fst

@[simp] theorem get?_nil (k : EntityKey) : get? ([] : KeyMap α) k = none := rfl

theorem get?_cons (e : EntityKey × α) (m : KeyMap α) (k : EntityKey) :
    get? (e :: m) k = if e.1 == k then some e.2 else get? m k := by
  unfold get?
  rw [List.find?_cons]
  cases e.1 == k <;> simp

theorem contains_eq_isSome_get? (m : KeyMap α) (k : EntityKey) :
    m.contains k = (m.get? k).isSome := by
  induction m with
  | nil => rfl
  | cons e m ih =>
    rw [get?_cons, contains, List.any_cons, ← contains, ih]
    cases e.1 == k <;> rfl

/-- Two keys that are the same are alike to every third one. -/
theorem beq_congr {a b : EntityKey} (h : (a == b) = true) (k : EntityKey) :
    (a == k) = (b == k) := by
  rw [Bool.eq_iff_iff]
  exact ⟨fun hak => BEq.trans (BEq.symm h) hak, fun hbk => BEq.trans h hbk⟩

/-- Two keys that are the same have the same entry. -/
theorem get?_congr (m : KeyMap α) {a b : EntityKey} (h : (a == b) = true) :
    m.get? a = m.get? b := by
  induction m with
  | nil => rfl
  | cons e m ih =>
    have hab : (e.1 == a) = (e.1 == b) := by
      rw [Bool.eq_iff_iff]
      exact ⟨fun he => BEq.trans he h, fun he => BEq.trans he (BEq.symm h)⟩
    rw [get?_cons, get?_cons, ih, hab]

/-- Replacing the entry of a key shows at that key only. -/
theorem get?_replace (m : KeyMap α) (k j : EntityKey) (x : α) :
    get? (m.map fun e => if e.1 == k then (e.1, x) else e) j =
      if k == j then (m.get? j).map fun _ => x else m.get? j := by
  induction m with
  | nil => simp
  | cons e m ih =>
    rw [List.map_cons, get?_cons, get?_cons]
    by_cases hek : (e.1 == k) = true
    · rw [if_pos hek, beq_congr hek j, ih]
      by_cases hkj : (k == j) = true <;> simp [hkj]
    · rw [if_neg hek, ih]
      by_cases hej : (e.1 == j) = true
      · have hkj : (k == j) = false := by
          rw [Bool.eq_false_iff]
          exact fun hkj => hek (BEq.trans hej (BEq.symm hkj))
        simp [hej, hkj]
      · simp [hej]

/-- An insertion shows at its own key only. -/
theorem get?_insert (m : KeyMap α) (k j : EntityKey) (x : α) :
    (m.insert k x).get? j = if k == j then some x else m.get? j := by
  unfold insert
  split
  · next h =>
    rw [get?_replace]
    split
    · next hkj =>
      rw [contains_eq_isSome_get?, get?_congr m hkj] at h
      obtain ⟨y, hy⟩ := Option.isSome_iff_exists.1 h
      rw [hy, Option.map_some]
    · rfl
  · rw [get?_cons]

/-- A removal shows at its own key only. -/
theorem get?_erase (m : KeyMap α) (k j : EntityKey) :
    (m.erase k).get? j = if k == j then none else m.get? j := by
  induction m with
  | nil => simp [erase]
  | cons e m ih =>
    rw [get?_cons]
    by_cases hek : (e.1 == k) = true
    · have hm : erase (e :: m) k = erase m k := by simp [erase, hek]
      rw [hm, ih, beq_congr hek j]
      by_cases hkj : (k == j) = true <;> simp [hkj]
    · have hm : erase (e :: m) k = e :: erase m k := by simp [erase, hek]
      rw [hm, get?_cons, ih]
      by_cases hej : (e.1 == j) = true
      · have hkj : (k == j) = false := by
          rw [Bool.eq_false_iff]
          exact fun hkj => hek (BEq.trans hej (BEq.symm hkj))
        simp [hej, hkj]
      · simp [hej]

end KeyMap

/-- The tracked instances of a session and their baselines. -/
structure Context where
  instances : KeyMap InstanceId
  /-- The baseline of the simple columns. -/
  columns : KeyMap (List ColumnValue)
  /-- The baseline of the references. -/
  relations : KeyMap (List RelationValue)

namespace Context

/-- A context that tracks nothing. -/
def empty : Context := ⟨[], [], []⟩

/-- The instance tracked under a key. -/
def get? (c : Context) (k : EntityKey) : Option InstanceId := c.instances.get? k

/-- Whether a key is tracked. -/
def contains (c : Context) (k : EntityKey) : Bool := c.instances.contains k

/-- How many instances are tracked. -/
def size (c : Context) : Nat := c.instances.length

/-- The context as it shows itself. -/
def describe (c : Context) : String :=
  "PersistenceContext \x7b entities: " ++ toString c.size ++ " \x7d"

/-- Tracks an instance under a key with the given baseline. -/
def track (c : Context) (k : EntityKey) (i : InstanceId) (columns : List ColumnValue)
    (relations : List RelationValue) : Context :=
  { instances := c.instances.insert k i
    columns := c.columns.insert k columns
    relations := c.relations.insert k relations }

theorem get?_track (c : Context) (k j : EntityKey) (i : InstanceId) (columns : List ColumnValue)
    (relations : List RelationValue) :
    (c.track k i columns relations).get? j = if k == j then some i else c.get? j :=
  KeyMap.get?_insert ..

/-- Makes other values the baseline of a key. -/
def setBaseline (c : Context) (k : EntityKey) (columns : List ColumnValue)
    (relations : List RelationValue) : Context :=
  { c with columns := c.columns.insert k columns, relations := c.relations.insert k relations }

/-- Stops tracking a key. -/
def remove (c : Context) (k : EntityKey) : Context :=
  { instances := c.instances.erase k
    columns := c.columns.erase k
    relations := c.relations.erase k }

theorem get?_remove (c : Context) (k j : EntityKey) :
    (c.remove k).get? j = if k == j then none else c.get? j :=
  KeyMap.get?_erase ..

/-- Starts to track an instance under its own key, unless that key is tracked. -/
def put (S : Schema) (h : Heap) (c : Context) (i : InstanceId) : Except Error Context := do
  let k ← h.key S i
  if k.id.isNull then
    .error (Fault.entity k.entity none none .trackWithoutIdentifier).error
  else if c.contains k then .ok c
  else
    let columns ← h.columnValues S i
    let relations ← h.relationValues S i
    .ok (c.track k i columns relations)

/-- Whether the instance tracked under the key of another one, or under its own. -/
def containsInstance (S : Schema) (h : Heap) (c : Context) (i : InstanceId) : Except Error Bool := do
  let k ← h.key S i
  .ok (c.contains k)

/-- Stops tracking the key of an instance. -/
def delete (S : Schema) (h : Heap) (c : Context) (i : InstanceId) : Except Error Context := do
  let k ← h.key S i
  .ok (c.remove k)

/-- Whether an instance differs from a baseline. -/
def differs (S : Schema) (h : Heap) (i : InstanceId) (columns : List ColumnValue)
    (relations : List RelationValue) : Except Error Bool := do
  let current ← h.columnValues S i
  if current != columns then .ok true
  else
    let m ← S.metadata (h.typeOf i)
    if m.hasReferences then
      let current ← h.relationValues S i
      .ok (!sameRelations current relations)
    else .ok false

/-- Whether the instance tracked under a key differs from its baseline; a key that is not tracked is
never dirty. -/
def isDirty (S : Schema) (h : Heap) (c : Context) (k : EntityKey) : Except Error Bool :=
  match c.get? k with
  | some i => differs S h i ((c.columns.get? k).getD []) ((c.relations.get? k).getD [])
  | none => .ok false

/-- The dirty ones among tracked instances, in the given order. -/
def dirtyAmong (S : Schema) (h : Heap) (c : Context) :
    List (EntityKey × InstanceId) → Except Error (List (EntityKey × InstanceId))
  | [] => .ok []
  | (k, i) :: rest => do
    let dirty ← differs S h i ((c.columns.get? k).getD []) ((c.relations.get? k).getD [])
    let others ← dirtyAmong S h c rest
    .ok (if dirty then (k, i) :: others else others)

/-- Makes the present state of the instance tracked under a key its baseline. -/
def refresh (S : Schema) (h : Heap) (c : Context) (k : EntityKey) : Except Error Context :=
  match c.get? k with
  | some i => do
    let columns ← h.columnValues S i
    let relations ← h.relationValues S i
    .ok (c.setBaseline k columns relations)
  | none => .ok c

end Context

end EntitySession
