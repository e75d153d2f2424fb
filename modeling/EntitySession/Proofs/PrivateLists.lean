import EntitySession.Proofs.Closing
import EntitySession.Proofs.ForeignKeys
import EntitySession.Proofs.Runs
import Mathlib.Data.Set.Insert

/-!
# Copies of a collection are lists of their own

The copies of a collection share a cell, which keeps what the first load among them has got, until the
first change of a copy gives it elements of its own.  So where the elements of a copy are, and whether
they are there at all, depends on what was done to all the others: a copy may be made before the load or
after it, from one that still shares the cell or from one that was changed.

None of this shows to those who use the copies.  `Sharing.refines_of_run` says that whatever is done to
them, in any order and with anything else in between, is a run of plain lists (`Lists.Step`): there is
one for each copy, it begins with what the supplier gives, a copy that is made begins with the list that
it was made from, and what is done to one list is done to no other.  A failure of the supplier is
answered with its error and does nothing to any list.  And the supplier is asked as seldom as can be: it
succeeds once at most, and nobody asks it after that (`Sharing.Supplied`).

What stands in the way is that the lists begin with elements which are not known before the supplier has
succeeded.  Until then no answer depends on them, and the invariant, `Sharing.Keeps`, asks nothing of the
lists as long as the cell is empty.  When it is filled all copies still share it, so all have the same
elements (`Keeps.fill`), and these are what the run of the lists is begun with (`run_waits`).
-/

set_option autoImplicit false

namespace EntitySession

deriving instance DecidableEq for Place

/-- A set that is loaded has no element twice. -/
theorem Collection.nodup_normalize (items : List InstanceId) : (normalize true items).Nodup := by
  suffices hgeneral : ∀ n, ∀ items : List InstanceId, items.length ≤ n → items.eraseDups.Nodup from
    hgeneral _ items le_rfl
  intro n
  induction n with
  | zero =>
    intro items hlength
    rw [List.length_eq_zero_iff.1 (Nat.le_zero.1 hlength)]
    exact List.nodup_nil
  | succ n ih =>
    rintro (_ | ⟨i, items⟩) hlength
    · exact List.nodup_nil
    · rw [List.eraseDups_cons, List.nodup_cons, List.mem_eraseDups]
      refine ⟨by simp, ih _ ((List.length_filter_le _ _).trans (Nat.le_of_succ_le_succ hlength))⟩

theorem Change.insert_eq (i : InstanceId) (items : List InstanceId) :
    Change.insert i items = (if i ∈ items then items else items ++ [i], decide (i ∉ items)) := by
  by_cases hi : i ∈ items <;> simp [Change.insert, hi]

theorem Change.remove_eq (i : InstanceId) (items : List InstanceId) :
    Change.remove i items = (items.erase i, decide (i ∈ items)) := by
  by_cases hi : i ∈ items
  · simp [Change.remove, hi]
  · simp [Change.remove, hi, List.erase_of_not_mem]

/-! ## Operations -/

/-- What can be done to a collection. -/
inductive Operation where
  | load
  | len
  | contains (i : InstanceId)
  /-- The element at a position, of a list. -/
  | get (index : Nat)
  /-- Appends an element to a list. -/
  | push (i : InstanceId)
  /-- Adds an element to a set. -/
  | insert (i : InstanceId)
  | remove (i : InstanceId)
  /-- Keeps those elements of which it is said when they are asked about one after another, which may depend
  on what was asked before. -/
  | retain (keep : List InstanceId → InstanceId → Bool)
  | clear

/-- What a collection answers. -/
inductive Answer where
  | elements (items : List InstanceId)
  | count (n : Nat)
  | truth (b : Bool)
  | element (i : Option InstanceId)
  | done
  deriving DecidableEq

namespace Operation

/-- The operations that there are on sets, or on lists. -/
def IsOf (distinct : Bool) : Operation → Prop
  | get _ | push _ => distinct = false
  | insert _ => distinct = true
  | _ => True

/-- The operation on a plain list: what becomes of the list, and the answer. -/
def onList : Operation → List InstanceId → List InstanceId × Answer
  | load, items => (items, .elements items)
  | len, items => (items, .count items.length)
  | contains i, items => (items, .truth (i ∈ items))
  | get index, items => (items, .element items[index]?)
  | push i, items => (items ++ [i], .done)
  | insert i, items => (if i ∈ items then items else items ++ [i], .truth (i ∉ items))
  | remove i, items => (items.erase i, .truth (i ∈ items))
  | retain keep, items => (Change.kept keep [] items, .done)
  | clear, _ => ([], .done)

/-- What is done to a set repeats no element. -/
theorem onList_nodup {o : Operation} (ho : o.IsOf true) {items : List InstanceId}
    (h : items.Nodup) : (o.onList items).1.Nodup := by
  cases o with
  | load | len | contains => exact h
  | get | push => cases ho
  | insert i =>
    rw [onList]
    split
    · exact h
    · next hi => exact List.concat_eq_append ▸ h.concat hi
  | remove i => exact h.erase i
  | retain keep => exact h.sublist (Change.kept_sublist keep [] items)
  | clear => exact List.nodup_nil

/-- Whether the operation gives a collection elements of its own. -/
def changes : Operation → Bool
  | load | len | contains _ | get _ => false
  | _ => true

theorem onList_of_not_changes {o : Operation} (ho : o.changes = false) (items : List InstanceId) :
    (o.onList items).1 = items := by
  cases o with
  | load | len | contains | get => rfl
  | push | insert | remove | retain | clear => cases ho

variable {δ : Type} {S : Schema} {place : Place} {held : String} {c : Collection} {w u : World δ}

/-- What the operation leaves behind when the elements are there. -/
def leave (o : Operation) (place : Place) (held : String) (c : Collection) (items : List InstanceId)
    (w : World δ) : World δ :=
  if o.changes then w.setLink place (.collection held (c.withItems (o.onList items).1)) else w

variable [Database δ] [Callbacks δ]

/-- The operation on the collection at a place. -/
def act (S : Schema) (place : Place) (held : String) (c : Collection) :
    Operation → Act (World δ) Answer
  | load => Answer.elements <$> World.load S held c
  | len => (fun items => .count items.length) <$> World.load S held c
  | contains i => (fun items => .truth (items.contains i)) <$> World.load S held c
  | get index => (fun items => .element items[index]?) <$> World.load S held c
  | push i => (fun _ => .done) <$> World.alter S place held c (Change.push i)
  | insert i => .truth <$> World.alter S place held c (Change.insert i)
  | remove i => .truth <$> World.alter S place held c (Change.remove i)
  | retain keep => (fun _ => .done) <$> World.alter S place held c (Change.retain keep)
  | clear => (fun _ => .done) <$> World.alter S place held c Change.clear

/-- A change is made to the elements that were loaded. -/
theorem alter_of_load {β : Type} {items : List InstanceId}
    (h : (World.load S held c).perform w = (.ok items, u))
    (change : List InstanceId → List InstanceId × β) :
    (World.alter S place held c change).perform w = (.ok (change items).2,
      u.setLink place (.collection held (c.withItems (change items).1))) :=
  Act.perform_bind_of_ok h _

/-- With the elements there, the operation answers and leaves what it does on a plain list. -/
theorem act_of_load {items : List InstanceId}
    (h : (World.load S held c).perform w = (.ok items, u)) (o : Operation) :
    (o.act S place held c).perform w = (.ok (o.onList items).2, o.leave place held c items u) := by
  cases o with
  | load | len | get => exact Act.perform_map_ok.2 ⟨_, h, rfl⟩
  | contains i =>
    exact Act.perform_map_ok.2 ⟨_, h, congrArg Answer.truth (List.contains_eq_mem i items)⟩
  | push | retain | clear => exact Act.perform_map_ok.2 ⟨_, alter_of_load h _, rfl⟩
  | insert i =>
    have halter : (World.alter S place held c (Change.insert i)).perform w = _ := alter_of_load h _
    rw [Change.insert_eq] at halter
    exact Act.perform_map_ok.2 ⟨_, halter, rfl⟩
  | remove i =>
    have halter : (World.alter S place held c (Change.remove i)).perform w = _ := alter_of_load h _
    rw [Change.remove_eq] at halter
    exact Act.perform_map_ok.2 ⟨_, halter, rfl⟩

/-- Without them it fails. -/
theorem act_of_load_error {e : Error} (h : (World.load S held c).perform w = (.error e, u))
    (o : Operation) : (o.act S place held c).perform w = (.error e, u) := by
  have halter {β : Type} (change : List InstanceId → List InstanceId × β) :
      (World.alter S place held c change).perform w = (.error e, u) :=
    Act.perform_bind_of_error h _
  cases o <;> simp only [act, Act.perform_map, h, halter, Except.map]

end Operation

/-! ## Worlds in which elements are put -/

namespace World

variable {δ : Type} {S : Schema} {w u : World δ} {place : Place}

/-- An association value can be put at a place: into a field that holds one, or outside of the
instances. -/
def Admits (w : World δ) : Place → Prop
  | .field i name => (w.site.heap.link? i name).isSome
  | .loose _ => True

theorem admits_of_link? {l : Link} (h : w.link? place = some l) : w.Admits place := by
  cases place with
  | field => exact Option.isSome_of_eq_some h
  | loose => trivial

/-- What was put at a place is there. -/
theorem link?_setLink_self (h : w.Admits place) (l : Link) :
    (w.setLink place l).link? place = some l := by
  cases place with
  | field i name =>
    obtain ⟨l', hl'⟩ := Option.isSome_iff_exists.1 h
    exact Heap.link?_setLink hl'
  | loose name =>
    change List.lookup name (if (w.loose.lookup name).isSome then Record.replace name l w.loose
      else w.loose ++ [(name, l)]) = some l
    split
    · next hsome =>
      obtain ⟨l', hl'⟩ := Option.isSome_iff_exists.1 hsome
      rw [Record.lookup_replace, if_pos rfl, hl', Option.map_some]
    · next hnone =>
      rw [List.lookup_append, Option.not_isSome_iff_eq_none.1 hnone, Option.none_or,
        List.lookup_cons_self]

@[simp] theorem setLink_cells (place : Place) (l : Link) (w : World δ) :
    (w.setLink place l).site.heap.cells = w.site.heap.cells := by
  cases place <;> rfl

/-- When something is put at a place, the other places have what they had. -/
theorem exists_link?_setLink {α β : Type} {g : β → Link} {R : α → β → Prop} {k : Place → α}
    {places : Set Place} (h : ∀ other ∈ places, ∃ b, w.link? other = some (g b) ∧ R (k other) b)
    (hadmits : w.Admits place) {a : α} {b : β} (hb : R a b) : ∀ other ∈ insert place places, ∃ b',
      (w.setLink place (g b)).link? other = some (g b') ∧ R (Function.update k place a other) b' := by
  intro other hother
  by_cases hne : other = place
  · subst hne
    rw [Function.update_self]
    exact ⟨b, link?_setLink_self hadmits _, hb⟩
  · obtain ⟨b', hlink, hb'⟩ := h other (Set.mem_of_mem_insert_of_ne hother hne)
    rw [Function.update_of_ne hne]
    exact ⟨b', (link?_setLink_ne (Ne.symm hne) _ w).trans hlink, hb'⟩

/-- The elements of the collection at a place, if they are there. -/
def elements? (w : World δ) (place : Place) : Option (List InstanceId) :=
  match w.link? place with
  | some (.collection _ c) => c.current? w.site.heap.cells
  | _ => none

theorem elements?_of_link? {held : String} {c : Collection}
    (h : w.link? place = some (.collection held c)) :
    w.elements? place = c.current? w.site.heap.cells := by
  rw [elements?, h]

/-- The result of a load is kept. -/
def fill (cell : CellId) (items : List InstanceId) (w : World δ) : World δ :=
  { w with site := { w.site with heap := w.site.heap.fillCell cell items } }

@[simp] theorem link?_fill (cell : CellId) (items : List InstanceId) (w : World δ) (place : Place) :
    (w.fill cell items).link? place = w.link? place := by
  cases place <;> rfl

theorem fill_cell {cell : CellId} {kept : Option (List InstanceId)}
    (h : w.site.heap.cells[cell]? = some kept) (items : List InstanceId) :
    (w.fill cell items).site.heap.cells[cell]? = some (some items) := by
  obtain ⟨hlt, -⟩ := Array.getElem?_eq_some_iff.1 h
  exact Array.getElem?_setIfInBounds_self_of_lt hlt

/-- Copies the association value at a place to another place. -/
def copy (source target : Place) : Act (World δ) Unit := do
  let l ← linkAt source
  put target l

theorem copy_of_link? {source : Place} {l : Link} (h : w.link? source = some l) (target : Place) :
    (copy source target).perform w = (.ok (), w.setLink target l) := by
  have hlink : (linkAt source).perform w = (.ok l, w) := by
    unfold linkAt
    rw [Act.perform_reading, h]
  exact Act.perform_bind_of_ok hlink _

variable [Database δ] [Callbacks δ]

section Due

variable {held : String} {distinct : Bool} {cell : CellId} {supplier : Supplier}

/-- A load that is due asks the supplier. -/
theorem load_of_due (h : w.site.heap.cells[cell]? = some none) :
    (load S held (.lazy distinct cell supplier)).perform w =
      (do
        let items ← supply S held supplier
        let items := Collection.normalize distinct items
        onSite (Site.change fun h => .ok ((), h.fillCell cell items))
        pure items : Act (World δ) (List InstanceId)).perform w := by
  have hcurrent : (Collection.lazy distinct cell supplier).current? w.site.heap.cells = none :=
    congrArg Option.join h
  exact Act.perform_bind_of_ok (congrArg (fun current => (Except.ok current, w)) hcurrent) _

theorem load_of_supply {found : List InstanceId} (h : w.site.heap.cells[cell]? = some none)
    (hsupply : (supply S held supplier).perform w = (.ok found, u)) :
    (load S held (.lazy distinct cell supplier)).perform w =
      (.ok (Collection.normalize distinct found), u.fill cell (Collection.normalize distinct found)) :=
  (load_of_due h).trans (Act.perform_bind_of_ok hsupply _)

theorem load_of_supply_error {e : Error} (h : w.site.heap.cells[cell]? = some none)
    (hsupply : (supply S held supplier).perform w = (.error e, u)) :
    (load S held (.lazy distinct cell supplier)).perform w = (.error e, u) :=
  (load_of_due h).trans (Act.perform_bind_of_error hsupply _)

end Due

/-- Whoever asks a supplier, association values and results of loads stay what they are. -/
theorem supply_keeps {held : String} {supplier : Supplier} {r : Except Error (List InstanceId)}
    (h : (supply S held supplier).perform w = (r, u)) :
    w.site.heap.KeepsCells u.site.heap ∧
      ∀ place l, w.link? place = some l → u.link? place = some l := by
  obtain ⟨served, hserved, -⟩ := supply_served h
  exact ⟨hserved.keepsCells, fun _ _ => hserved.link?⟩

end World

/-! ## Copies and lists -/

/-- What is done to the copies of a collection. -/
inductive Copies.Event where
  /-- An operation was called for on the copy at a place. -/
  | called (place : Place) (o : Operation) (answer : Except Error Answer)
  /-- The copy at the first place was copied to the second. -/
  | copied (source target : Place)
  | elsewhere

/-- A world, and the places where the copies of an association value are. -/
structure Copies (δ : Type) where
  world : World δ
  places : Set Place

/-- A moment of copies. -/
abbrev Copies.Moment (δ : Type) : Type := EntitySession.Moment (Copies δ) Copies.Event

/-- A plain list for each copy. -/
abbrev Lists : Type := Place → List InstanceId

/-- A moment of plain lists. -/
abbrev Lists.Moment : Type := EntitySession.Moment Lists Copies.Event

/-- What is done to plain lists: an operation is done to one of them, or fails and is done to none; a
copy begins with the list that it is made from. -/
inductive Lists.Step (distinct : Bool) : Lists → Copies.Event → Lists → Prop
  | answered (l : Lists) (place : Place) {o : Operation} (ho : o.IsOf distinct) :
      Step distinct l (.called place o (.ok (o.onList (l place)).2))
        (Function.update l place (o.onList (l place)).1)
  | failed (l : Lists) (place : Place) (o : Operation) (e : Error) :
      Step distinct l (.called place o (.error e)) l
  | copied (l : Lists) (source target : Place) :
      Step distinct l (.copied source target) (Function.update l target (l source))
  | elsewhere (l : Lists) : Step distinct l .elsewhere l

/-- The lists of sets never repeat an element. -/
theorem Lists.Step.nodup {l l' : Lists} {e : Copies.Event} (h : Lists.Step true l e l')
    (hl : ∀ place, (l place).Nodup) (place : Place) : (l' place).Nodup := by
  cases h with
  | answered place' ho =>
    rw [Function.update_apply]
    split
    · exact Operation.onList_nodup ho (hl place')
    · exact hl place
  | copied source target =>
    rw [Function.update_apply]
    split
    · exact hl source
    · exact hl place
  | failed | elsewhere => exact hl place

/-- A collection that is loaded on first access, as it was made. -/
structure Sharing where
  /-- The type of the elements. -/
  held : String
  distinct : Bool
  /-- What the copies share. -/
  cell : CellId
  supplier : Supplier

namespace Sharing

variable {δ : Type} {S : Schema} {f : Sharing}

/-- The collection itself. -/
def collection (f : Sharing) : Collection := .lazy f.distinct f.cell f.supplier

/-- What the elements are when the supplier has given these. -/
def elements (f : Sharing) (found : List InstanceId) : List InstanceId :=
  Collection.normalize f.distinct found

theorem elements_nodup (f : Sharing) (found : List InstanceId) (h : f.distinct = true) :
    (f.elements found).Nodup := by
  rw [elements, h]
  exact Collection.nodup_normalize found

variable [Database δ] [Callbacks δ]

/-- What is done to the copies of a collection, one thing after another.  Others may do whatever they
like, and drop copies, but not change them, nor what they share. -/
inductive Step (f : Sharing) (S : Schema) : Copies δ → Copies.Event → Copies δ → Prop
  | called {x : Copies δ} {place : Place} {o : Operation} {c : Collection} {v : World δ}
      {answer : Except Error Answer} (hplace : place ∈ x.places) (ho : o.IsOf f.distinct)
      (hc : x.world.link? place = some (.collection f.held c))
      (h : (o.act S place f.held c).perform x.world = (answer, v)) :
      Step f S x (.called place o answer) ⟨v, x.places⟩
  | copied {x : Copies δ} {source target : Place} {v : World δ} {answer : Except Error Unit}
      (hsource : source ∈ x.places) (htarget : x.world.Admits target)
      (h : (World.copy source target).perform x.world = (answer, v)) :
      Step f S x (.copied source target) ⟨v, insert target x.places⟩
  | elsewhere {x y : Copies δ} (hplaces : y.places ⊆ x.places)
      (hlinks : ∀ place ∈ y.places, y.world.link? place = x.world.link? place)
      (hcell : y.world.site.heap.cells[f.cell]? = x.world.site.heap.cells[f.cell]?) :
      Step f S x .elsewhere y

/-! ## What is said of the supplier -/

/-- As long as nothing is loaded, an operation asks the supplier and fails as the supplier does, and no
association value has changed. -/
structure Waits (f : Sharing) (S : Schema) (m : Copies.Moment δ) : Prop where
  failed : ∀ place o answer, m.event = .called place o answer → ∃ e, answer = .error e ∧
    (World.supply S f.held f.supplier).perform m.before.world = (.error e, m.after.world)
  unchanged : ∀ place o answer, m.event = .called place o answer → ∀ other l,
    m.before.world.link? other = some l → m.after.world.link? other = some l
  unloaded : ∀ place ∈ m.after.places, m.after.world.elements? place = none

/-- The moment of the load: an operation asks the supplier, and is given this. -/
structure Fetches (f : Sharing) (S : Schema) (m : Copies.Moment δ) (found : List InstanceId) :
    Prop where
  fetched : ∃ place o answer u, m.event = .called place o (.ok answer) ∧
    (World.supply S f.held f.supplier).perform m.before.world = (.ok found, u) ∧
      m.after.world =
        o.leave place f.held f.collection (f.elements found) (u.fill f.cell (f.elements found))
  loaded : ∀ place ∈ m.after.places, (m.after.world.elements? place).isSome

/-- When the elements are there, an operation does not fail, and it asks nobody: nothing has changed but
the copy itself. -/
structure Rests (f : Sharing) (m : Copies.Moment δ) : Prop where
  answered : ∀ place o answer, m.event = .called place o answer → ∃ c items a,
    answer = .ok a ∧ m.before.world.link? place = some (.collection f.held c) ∧
      m.before.world.elements? place = some items ∧
        m.after.world = o.leave place f.held c items m.before.world
  loaded : ∀ place ∈ m.after.places, (m.after.world.elements? place).isSome

theorem Waits.of_unloaded {m : Copies.Moment δ} (hm : ∀ place o answer, m.event ≠ .called place o answer)
    (h : ∀ place ∈ m.after.places, m.after.world.elements? place = none) : f.Waits S m :=
  ⟨fun _ _ _ hevent => absurd hevent (hm _ _ _), fun _ _ _ hevent => absurd hevent (hm _ _ _), h⟩

omit [Database δ] [Callbacks δ] in
theorem Rests.of_loaded {m : Copies.Moment δ} (hm : ∀ place o answer, m.event ≠ .called place o answer)
    (h : ∀ place ∈ m.after.places, (m.after.world.elements? place).isSome) : f.Rests m :=
  ⟨fun _ _ _ hevent => absurd hevent (hm _ _ _), h⟩

/-- The supplier fails until it succeeds, once, with these elements, and is not asked after that. -/
inductive Supplied (f : Sharing) (S : Schema) (items : List InstanceId) :
    List (Copies.Moment δ) → Prop
  | never {trace : List (Copies.Moment δ)} (h : ∀ m ∈ trace, f.Waits S m) : Supplied f S items trace
  | once {first last : List (Copies.Moment δ)} {m : Copies.Moment δ} {found : List InstanceId}
      (hfirst : ∀ m ∈ first, f.Waits S m) (hm : f.Fetches S m found)
      (hitems : items = f.elements found) (hlast : ∀ m ∈ last, f.Rests m) :
      Supplied f S items (first ++ m :: last)

/-- A moment of the copies is this moment of the lists: the answer is the same, and so are the elements
of every copy that has got any. -/
structure Shows (m : Copies.Moment δ) (p : Lists.Moment) : Prop where
  event : m.event = p.event
  elements : ∀ place ∈ m.after.places, ∀ items, m.after.world.elements? place = some items →
    items = p.after place

/-- What is to be said of a collection and its copies: with elements that the supplier gives, the trace
shows a run of plain lists. -/
structure Refines (f : Sharing) (S : Schema) (trace : List (Copies.Moment δ))
    (items : List InstanceId) (plain : List Lists.Moment) : Prop where
  supplied : f.Supplied S items trace
  lists : ∃ l, Run (Lists.Step f.distinct) (fun _ => items) plain l
  shows : List.Forall₂ Shows trace plain
  /-- A set has no element twice. -/
  nodup : f.distinct = true → ∀ p ∈ plain, ∀ place, (p.after place).Nodup

/-! ## Where the elements of a copy are -/

/-- The elements of a copy, when the cell keeps this. -/
inductive Holds (f : Sharing) : Option (List InstanceId) → Collection → List InstanceId → Prop
  /-- They are not known yet, and may be anything. -/
  | waiting (items : List InstanceId) : Holds f none f.collection items
  | shared (items : List InstanceId) : Holds f (some items) f.collection items
  | own (kept items : List InstanceId) : Holds f (some kept) ⟨f.distinct, .own items⟩ items

/-- The cell keeps this, and the copies have the elements of these lists. -/
structure Keeps (f : Sharing) (kept : Option (List InstanceId)) (l : Lists) (x : Copies δ) :
    Prop where
  cell : x.world.site.heap.cells[f.cell]? = some kept
  copies : ∀ place ∈ x.places, ∃ c,
    x.world.link? place = some (.collection f.held c) ∧ f.Holds kept c (l place)

section Keeps

variable {kept : Option (List InstanceId)} {l : Lists} {x : Copies δ} {w u : World δ}
  {places : Set Place} {place : Place} {c : Collection} {items : List InstanceId}

omit [Database δ] [Callbacks δ]

theorem Holds.distinct (h : f.Holds kept c items) : c.distinct = f.distinct := by
  cases h <;> rfl

theorem Holds.collection (h : f.Holds none c items) : c = f.collection := by
  cases h
  rfl

theorem Holds.current? {loaded : List InstanceId} (h : f.Holds (some loaded) c items)
    (hcell : w.site.heap.cells[f.cell]? = some (some loaded)) :
    c.current? w.site.heap.cells = some items := by
  cases h with
  | shared => exact congrArg Option.join hcell
  | own => rfl

theorem Keeps.holds (h : f.Keeps kept l x) (hplace : place ∈ x.places)
    (hc : x.world.link? place = some (.collection f.held c)) : f.Holds kept c (l place) := by
  obtain ⟨c', hc', hholds⟩ := h.copies place hplace
  rw [hc, Option.some.injEq, Link.collection.injEq] at hc'
  obtain ⟨-, rfl⟩ := hc'
  exact hholds

theorem Keeps.elements? (h : f.Keeps (some items) l x) (hplace : place ∈ x.places) :
    x.world.elements? place = some (l place) := by
  obtain ⟨c, hc, hholds⟩ := h.copies place hplace
  rw [World.elements?_of_link? hc, hholds.current? h.cell]

theorem Keeps.loaded (h : f.Keeps (some items) l x) :
    ∀ place ∈ x.places, (x.world.elements? place).isSome :=
  fun _ hplace => Option.isSome_of_eq_some (h.elements? hplace)

theorem Keeps.unloaded (h : f.Keeps none l x) : ∀ place ∈ x.places, x.world.elements? place = none := by
  intro place hplace
  obtain ⟨c, hc, hholds⟩ := h.copies place hplace
  rw [World.elements?_of_link? hc, hholds.collection]
  exact congrArg Option.join h.cell

theorem Keeps.shows {m : Copies.Moment δ} (h : f.Keeps (some items) l m.after) {p : Lists.Moment}
    (hp : p.after = l) (hevent : m.event = p.event) : Shows m p := by
  refine ⟨hevent, fun place hplace now hnow => ?_⟩
  rw [h.elements? hplace, Option.some.injEq] at hnow
  rw [hp, hnow]

/-- What is put at a place is the copy there, and the other copies are what they were. -/
theorem Keeps.put (h : f.Keeps kept l ⟨w, places⟩) (hadmits : w.Admits place)
    (hholds : f.Holds kept c items) :
    f.Keeps kept (Function.update l place items)
      ⟨w.setLink place (.collection f.held c), insert place places⟩ := by
  refine ⟨(congrArg (·[f.cell]?) (World.setLink_cells place _ w)).trans h.cell, ?_⟩
  exact World.exists_link?_setLink (R := fun items c => f.Holds kept c items) h.copies hadmits hholds

/-- With the elements there, an operation does to a copy what it does to the list. -/
theorem Keeps.leave (h : f.Keeps (some items) l ⟨w, places⟩) (hplace : place ∈ places)
    (hc : w.link? place = some (.collection f.held c)) (o : Operation) :
    f.Keeps (some items) (Function.update l place (o.onList (l place)).1)
      ⟨o.leave place f.held c (l place) w, places⟩ := by
  rw [Operation.leave]
  split
  · have hput := h.put (World.admits_of_link? hc) (.own items (o.onList (l place)).1)
    rw [Set.insert_eq_of_mem hplace] at hput
    rwa [Collection.withItems, (h.holds hplace hc).distinct]
  · next hchanges =>
    rw [Operation.onList_of_not_changes (Bool.eq_false_iff.2 hchanges), Function.update_eq_self]
    exact h

/-- When the cell is filled all copies have got the same elements. -/
theorem Keeps.fill (h : f.Keeps none l ⟨w, places⟩) (items : List InstanceId) :
    f.Keeps (some items) (fun _ => items) ⟨w.fill f.cell items, places⟩ := by
  refine ⟨World.fill_cell h.cell items, fun place hplace => ?_⟩
  obtain ⟨c, hc, hholds⟩ := h.copies place hplace
  obtain rfl := hholds.collection
  exact ⟨_, (World.link?_fill ..).trans hc, .shared items⟩

/-- What leaves the copies and the cell alone leaves the elements alone. -/
theorem Keeps.of_same {y : Copies δ} (h : f.Keeps kept l x)
    (hcell : y.world.site.heap.cells[f.cell]? = x.world.site.heap.cells[f.cell]?)
    (hlinks : ∀ place ∈ y.places, place ∈ x.places ∧
      ∀ l, x.world.link? place = some l → y.world.link? place = some l) : f.Keeps kept l y := by
  refine ⟨hcell.trans h.cell, fun place hplace => ?_⟩
  obtain ⟨hmem, hlink⟩ := hlinks place hplace
  obtain ⟨c, hc, hholds⟩ := h.copies place hmem
  exact ⟨c, hlink _ hc, hholds⟩

/-- A copy begins with the elements that it is made from. -/
theorem Keeps.copied (h : f.Keeps kept l x) {source target : Place} {answer : Except Error Unit}
    (hsource : source ∈ x.places) (htarget : x.world.Admits target)
    (hcopy : (World.copy source target).perform x.world = (answer, w)) :
    f.Keeps kept (Function.update l target (l source)) ⟨w, insert target x.places⟩ := by
  obtain ⟨c, hc, hholds⟩ := h.copies source hsource
  cases (World.copy_of_link? hc target).symm.trans hcopy
  exact h.put htarget hholds

end Keeps

/-! ## Steps -/

section Steps

variable {l : Lists} {x y : Copies δ} {e : Copies.Event} {items : List InstanceId}

/-- With the elements there, whatever is done to the copies is done to the lists, and nobody is asked. -/
theorem Step.rests (h : f.Step S x e y) (hx : f.Keeps (some items) l x) :
    ∃ l', Lists.Step f.distinct l e l' ∧ f.Keeps (some items) l' y ∧ f.Rests ⟨x, e, y⟩ := by
  cases h with
  | @called place o c v answer hplace ho hc h =>
    have hload := World.load_known (S := S) ((hx.holds hplace hc).current? hx.cell) f.held
    obtain ⟨rfl, rfl⟩ := Prod.mk.inj ((Operation.act_of_load hload o).symm.trans h)
    have hy := hx.leave hplace hc o
    refine ⟨_, .answered l place ho, hy, ⟨?_, hy.loaded⟩⟩
    intro place' o' answer' hevent
    cases hevent
    exact ⟨c, _, _, rfl, hc, hx.elements? hplace, rfl⟩
  | copied hsource htarget h =>
    have hy := hx.copied hsource htarget h
    exact ⟨_, .copied l _ _, hy, .of_loaded (fun _ _ _ h => nomatch h) hy.loaded⟩
  | elsewhere hplaces hlinks hcell =>
    have hy := hx.of_same hcell fun place hplace =>
      ⟨hplaces hplace, fun _ hl => (hlinks place hplace).trans hl⟩
    exact ⟨l, .elsewhere l, hy, .of_loaded (fun _ _ _ h => nomatch h) hy.loaded⟩

/-- Without them the supplier is asked: it fails, and no list has changed, or it succeeds, and the lists
are known from then on. -/
theorem Step.waits_or_fetches (h : f.Step S x e y) (hx : f.Keeps none l x) :
    (f.Waits S ⟨x, e, y⟩ ∧ (∃ l', f.Keeps none l' y) ∧
      ∀ items, Lists.Step f.distinct (fun _ => items) e (fun _ => items)) ∨
    ∃ found l', f.Fetches S ⟨x, e, y⟩ found ∧ f.Keeps (some (f.elements found)) l' y ∧
      Lists.Step f.distinct (fun _ => f.elements found) e l' := by
  cases h with
  | @called place o c v answer hplace ho hc h =>
    obtain rfl := (hx.holds hplace hc).collection
    rcases hsupply : (World.supply S f.held f.supplier).perform x.world with ⟨r, u⟩
    obtain ⟨hcells, hlinks⟩ := World.supply_keeps hsupply
    have hu : f.Keeps none l ⟨u, x.places⟩ :=
      hx.of_same ((hcells _ _ hx.cell).trans hx.cell.symm) fun place hplace => ⟨hplace, hlinks place⟩
    cases r with
    | error err =>
      have hload : (World.load S f.held f.collection).perform x.world = (.error err, u) :=
        World.load_of_supply_error hx.cell hsupply
      obtain ⟨rfl, rfl⟩ := Prod.mk.inj ((Operation.act_of_load_error hload o).symm.trans h)
      refine .inl ⟨⟨?_, ?_, hu.unloaded⟩, ⟨l, hu⟩, fun items => .failed _ place o err⟩
      · intro place' o' answer' hevent
        cases hevent
        exact ⟨err, rfl, hsupply⟩
      · exact fun _ _ _ _ => hlinks
    | ok found =>
      have hload : (World.load S f.held f.collection).perform x.world =
          (.ok (f.elements found), u.fill f.cell (f.elements found)) :=
        World.load_of_supply hx.cell hsupply
      obtain ⟨rfl, rfl⟩ := Prod.mk.inj ((Operation.act_of_load hload o).symm.trans h)
      have hy := (hu.fill (f.elements found)).leave hplace
        ((World.link?_fill ..).trans (hlinks place _ hc)) o
      exact .inr ⟨found, _, ⟨⟨place, o, _, u, rfl, hsupply, rfl⟩, hy.loaded⟩, hy, .answered _ place ho⟩
  | @copied source target v answer hsource htarget h =>
    have hy := hx.copied hsource htarget h
    refine .inl ⟨.of_unloaded (fun _ _ _ h => nomatch h) hy.unloaded, ⟨_, hy⟩, fun items => ?_⟩
    -- a list that is copied over one that is equal to it
    have hcopied : Lists.Step f.distinct (fun _ => items) (.copied source target) _ :=
      .copied (fun _ => items) source target
    rwa [Function.update_eq_self target] at hcopied
  | elsewhere hplaces hlinks hcell =>
    have hy := hx.of_same hcell fun place hplace =>
      ⟨hplaces hplace, fun _ hl => (hlinks place hplace).trans hl⟩
    exact .inl ⟨.of_unloaded (fun _ _ _ h => nomatch h) hy.unloaded, ⟨l, hy⟩,
      fun _ => .elsewhere _⟩

end Steps

/-! ## Runs -/

section Runs

variable {l : Lists} {x y : Copies δ} {trace : List (Copies.Moment δ)} {items : List InstanceId}

/-- When the elements are there, every run of the copies shows a run of the lists. -/
theorem run_rests (hrun : Run (f.Step S) x trace y) (hx : f.Keeps (some items) l x) :
    ∃ plain l', Run (Lists.Step f.distinct) l plain l' ∧ List.Forall₂ Shows trace plain ∧
      ∀ m ∈ trace, f.Rests m := by
  induction hrun generalizing l with
  | nil => exact ⟨[], l, .nil l, .nil, List.forall_mem_nil _⟩
  | cons hfirst _ ih =>
    obtain ⟨l', hstep, hy, hrests⟩ := hfirst.rests hx
    obtain ⟨plain, l'', hplain, hshows, hrest⟩ := ih hy
    exact ⟨_, l'', .cons hstep hplain, .cons (hy.shows rfl rfl) hshows,
      List.forall_mem_cons.2 ⟨hrests, hrest⟩⟩

theorem Supplied.cons {m : Copies.Moment δ} (hm : f.Waits S m) (h : f.Supplied S items trace) :
    f.Supplied S items (m :: trace) := by
  cases h with
  | never h => exact .never (List.forall_mem_cons.2 ⟨hm, h⟩)
  | once hfirst hfetches hitems hlast =>
    exact .once (List.forall_mem_cons.2 ⟨hm, hfirst⟩) hfetches hitems hlast

/-- So does every run from the beginning: the lists begin with what the supplier gives in the end. -/
theorem run_waits (hrun : Run (f.Step S) x trace y) (hx : f.Keeps none l x) :
    ∃ items plain l', (f.distinct = true → items.Nodup) ∧ f.Supplied S items trace ∧
      Run (Lists.Step f.distinct) (fun _ => items) plain l' ∧ List.Forall₂ Shows trace plain := by
  induction hrun generalizing l with
  | nil => exact ⟨[], [], _, fun _ => List.nodup_nil, .never (List.forall_mem_nil _), .nil _, .nil⟩
  | cons hfirst hrest ih =>
    rcases hfirst.waits_or_fetches hx with ⟨hwaits, ⟨l', hy⟩, hstep⟩ | ⟨found, l', hfetches, hy, hstep⟩
    · obtain ⟨items, plain, l'', hnodup, hsupplied, hplain, hshows⟩ := ih hy
      refine ⟨items, _, l'', hnodup, hsupplied.cons hwaits, .cons (hstep items) hplain,
        .cons ⟨rfl, fun place hplace items hitems => ?_⟩ hshows⟩
      rw [hwaits.unloaded place hplace] at hitems
      cases hitems
    · obtain ⟨plain, l'', hplain, hshows, hrests⟩ := run_rests hrest hy
      have hsupplied := Supplied.once (List.forall_mem_nil _) hfetches rfl hrests
      exact ⟨f.elements found, _, l'', f.elements_nodup found, hsupplied, .cons hstep hplain,
        .cons (hy.shows rfl rfl) hshows⟩

/-- **Copies of a collection are lists of their own.**  A place holds a collection that is loaded on
first access, and nothing is loaded yet.  Whatever is done from then on, to the collection, to copies
that are made of it and to copies of these, shows a run of plain lists: every answer that is no failure is
the one that the list gives, and every copy has the elements of its list once it has any.  All lists begin
with what the supplier gives, without repetitions if they are sets.  The supplier succeeds once at most
and is not asked after that, and when it fails, its error is the answer and nothing has changed. -/
theorem refines_of_run {w : World δ} {place : Place}
    (hplace : w.link? place = some (.collection f.held f.collection))
    (hcell : w.site.heap.cells[f.cell]? = some none)
    (hrun : Run (f.Step S) ⟨w, {place}⟩ trace x) : ∃ items plain, f.Refines S trace items plain := by
  have hx : f.Keeps none (fun _ => []) (⟨w, {place}⟩ : Copies δ) := by
    refine ⟨hcell, fun other hother => ?_⟩
    obtain rfl := Set.mem_singleton_iff.1 hother
    exact ⟨_, hplace, .waiting []⟩
  obtain ⟨items, plain, l, hnodup, hsupplied, hplain, hshows⟩ := run_waits hrun hx
  refine ⟨items, plain, hsupplied, ⟨l, hplain⟩, hshows, fun hdistinct p hp place => ?_⟩
  obtain ⟨first, last, rfl⟩ := List.append_of_mem hp
  obtain ⟨hfirst, hstep, -⟩ := hplain.split
  rw [hdistinct] at hfirst hstep
  refine (hfirst.trans (.single hstep)).invariant (P := fun l : Lists => ∀ place, (l place).Nodup)
    (fun _ _ hstep' hl => hstep'.nodup hl) (fun _ => hnodup hdistinct) place

end Runs

end Sharing

/-! ## A list of guests

Guests are listed at the door, and the host, who knows them, answers the second time only. -/

namespace Guests

/-- The guests as they are told, one of them twice. -/
def told : List InstanceId := [4, 7, 4]

/-- The list, or the set, of the guests. -/
def party (distinct : Bool) : Sharing := ⟨"Guest", distinct, 0, .outside 0⟩

/-- No class of guests is ever asked for. -/
def schema : Schema := Declaration.schema []

/-- The host is not there at first. -/
def scene : Rehearsal.Scene :=
  { Rehearsal.Scene.empty with suppliers := #[⟨"host", [.error .sessionClosed, .ok told]⟩] }

/-- Where the list is at first. -/
def door : Place := .loose "door"

/-- A place that gets a copy before anybody knows the guests. -/
def kitchen : Place := .loose "kitchen"

/-- A place that gets a copy later. -/
def garden : Place := .loose "garden"

/-- The list is at the door, and nobody knows yet what it says. -/
def opening (distinct : Bool) : World Rehearsal.Scene :=
  { World.start scene with
    site := { (World.start scene).site with heap := (Heap.empty.reserve 1).2 }
    loose := [("door", .collection "Guest" (party distinct).collection)] }

/-- The copy at a place. -/
def copyAt (x : Copies Rehearsal.Scene) (place : Place) : Collection :=
  match x.world.link? place with
  | some (.collection _ c) => c
  | _ => .ofItems false []

/-- Something is done to the copy at a place. -/
def ask (place : Place) (o : Operation) (x : Copies Rehearsal.Scene) :
    Copies.Moment Rehearsal.Scene :=
  let result := (o.act schema place "Guest" (copyAt x place)).perform x.world
  ⟨x, .called place o result.1, ⟨result.2, x.places⟩⟩

/-- A copy is copied. -/
def duplicate (source target : Place) (x : Copies Rehearsal.Scene) :
    Copies.Moment Rehearsal.Scene :=
  ⟨x, .copied source target, ⟨((World.copy source target).perform x.world).2, insert target x.places⟩⟩

/-- The guests are counted at the door, in vain; the kitchen gets a copy, and there they are counted
again.  One of them leaves by the door, and only then the garden gets a copy of the list there.  In the
end the two copies are read. -/
def evening (distinct : Bool) : List (Copies.Moment Rehearsal.Scene) :=
  let counted := ask door .len ⟨opening distinct, {door}⟩
  let given := duplicate door kitchen counted.after
  let recounted := ask kitchen .len given.after
  let parted := ask door (.remove 4) recounted.after
  let passed := duplicate door garden parted.after
  let read := ask kitchen .load passed.after
  [counted, given, recounted, parted, passed, read, ask garden .load read.after]

/-- What the copies have answered. -/
def answers (trace : List (Copies.Moment Rehearsal.Scene)) : List (Option Answer) :=
  trace.filterMap fun m =>
    match m.event with
    | .called _ _ answer => some answer.toOption
    | _ => none

theorem step_ask {distinct : Bool} {place : Place} {o : Operation} {x : Copies Rehearsal.Scene}
    (hplace : place ∈ x.places) (ho : o.IsOf distinct)
    (hc : x.world.link? place = some (.collection "Guest" (copyAt x place))) :
    (party distinct).Step schema x (ask place o x).event (ask place o x).after :=
  .called hplace ho hc rfl

theorem step_duplicate {distinct : Bool} {source : Place} {x : Copies Rehearsal.Scene} {name : String}
    (hsource : source ∈ x.places) :
    (party distinct).Step schema x (duplicate source (.loose name) x).event
      (duplicate source (.loose name) x).after :=
  .copied hsource trivial rfl

theorem run_evening (distinct : Bool) :
    ∃ x, Run ((party distinct).Step schema) ⟨opening distinct, {door}⟩ (evening distinct) x := by
  have hdoor : door ∈ ({door} : Set Place) := rfl
  have hkitchen : kitchen ∈ (insert kitchen {door} : Set Place) := Set.mem_insert ..
  have hgarden : garden ∈ (insert garden (insert kitchen {door}) : Set Place) := Set.mem_insert ..
  refine ⟨_, .cons (step_ask hdoor trivial ?_) <| .cons (step_duplicate hdoor) <|
    .cons (step_ask hkitchen trivial ?_) <|
    .cons (step_ask (Set.mem_insert_of_mem _ hdoor) trivial ?_) <|
    .cons (step_duplicate (Set.mem_insert_of_mem _ hdoor)) <|
    .cons (step_ask (Set.mem_insert_of_mem _ hkitchen) trivial ?_) <|
    .cons (step_ask hgarden trivial ?_) <| .nil _⟩
  all_goals cases distinct <;> decide +kernel

/-- Each copy has a list of its own, and so it is with the set, where nobody is counted twice. -/
theorem refines_of_run_evening :
    (∃ items plain, (party false).Refines schema (evening false) items plain) ∧
      (∃ items plain, (party true).Refines schema (evening true) items plain) ∧
      answers (evening false) = [none, some (.count 3), some (.truth true),
        some (.elements [4, 7, 4]), some (.elements [7, 4])] ∧
      answers (evening true) = [none, some (.count 2), some (.truth true),
        some (.elements [4, 7]), some (.elements [7])] := by
  obtain ⟨x, hlist⟩ := run_evening false
  obtain ⟨y, hset⟩ := run_evening true
  refine ⟨Sharing.refines_of_run ?_ rfl hlist, Sharing.refines_of_run ?_ rfl hset, ?_, ?_⟩
  all_goals decide +kernel

end Guests

end EntitySession
