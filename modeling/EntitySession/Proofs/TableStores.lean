import EntitySession.Proofs.Queue
import EntitySession.Proofs.RowWrites
import EntitySession.Proofs.Writes

/-!
# What actions do to tables

A `TableStore` is a database of which one knows what becomes of its rows: an insert puts a row at the
address of its identifier and fails if there is one already, a delete removes what is there.

Over such a database an insert or a delete that waits means a write to one row (`TableStore.Means`).  If
it is run, it succeeds exactly when that write does, and then it has done the write and nothing else
(`TableStore.Means.writes`, and `TableStore.writes_each` for many).  An action on an instance without an
identifier means nothing, and neither does one whose statement cannot be put together; but every insert
or delete that has been run with success has a meaning (`TableStore.exists_means_insert`,
`TableStore.exists_means_delete`).
-/

set_option autoImplicit false

namespace EntitySession

variable {δ : Type} {S : Schema}

/-! ## Stores -/

/-- A database seen as what its tables hold.  A row has an address, which its table and its identifier
give it.  An insert of a row with an identifier puts it there and fails if there is one already; a delete
removes the row that is there. -/
structure TableStore (S : Schema) (δ : Type) [Database δ] where
  Address : Type
  decideAddress : DecidableEq Address
  /-- Where the row of a type with an identifier is. -/
  address : Metadata → Value → Address
  /-- The rows that are seen over a connection. -/
  rows : ConnectionId → δ → Address → Option (List ColumnValue)
  insert : ∀ {entity : String} {m : Metadata} {values : List Value} {v id : Value} (c : ConnectionId)
    (d : δ), S.metadata entity = .ok m → values.length = m.fields.length →
      (m.identifier, v) ∈ m.fields.zip values → v.cast m.identifier.sqlType = .ok id → id ≠ .null →
    let answer := Database.insert c (Statement.insert m.table.name m.columnNames).render values d
    let write := RowWrite.insert (address m id) (m.columnNames.zipWith ColumnValue.mk values)
    (∃ rows', write.apply (rows c d) = some rows' ∧ (∃ keys, answer.1 = .ok ⟨1, keys⟩) ∧
        rows c answer.2 = rows') ∨
      write.apply (rows c d) = none ∧ ∃ e, answer.1 = .error e
  delete : ∀ {entity : String} {m : Metadata} {id : Value} (c : ConnectionId) (d : δ),
    S.metadata entity = .ok m → id ≠ .null →
    let answer := Database.execute c (Statement.delete m.table.name m.identifier.column).render [id] d
    let write : RowWrite Address (List ColumnValue) := .delete (address m id)
    (∃ n, answer.1 = .ok n) ∧ write.apply (rows c d) = some (rows c answer.2)

attribute [instance] TableStore.decideAddress

namespace TableStore

variable [Database δ] {store : TableStore S δ}

/-- The row write that an action means. -/
inductive Means (store : TableStore S δ) (h : Heap) (g : Gateway) :
    Action → RowWrite store.Address (List ColumnValue) → Prop
  | insert {entity : String} {i : InstanceId} {m : Metadata} {id : Value} {values : List Value}
      (hm : S.metadata (h.typeOf i) = .ok m) (hid : h.id S i = .ok id) (hn : id ≠ .null)
      (hvalues : Gateway.parameters S h i m.fields = .ok values) :
      Means store h g (.insert g entity i)
        (.insert (store.address m id) (m.columnNames.zipWith ColumnValue.mk values))
  | delete {k : EntityKey} {m : Metadata} (hm : S.metadata k.entity = .ok m) (hn : k.id ≠ .null) :
      Means store h g (.delete g k) (.delete (store.address m k.id))

/-- What becomes of a session in which some writes are done: they succeed as writes to the rows do, and
change nothing but those. -/
inductive Writes (store : TableStore S δ) (g : Gateway) (w : Work δ)
    (rows' : Option (store.Address → Option (List ColumnValue))) : Except Error Unit → Work δ → Prop
  | done {t : Site δ} (hheap : t.heap = w.site.heap)
      (hrows : rows' = some (store.rows g.connection t.outside)) :
      Writes store g w rows' (.ok ()) { w with site := t }
  | failed {e : Error} {v : Work δ} (hrows : rows' = none) : Writes store g w rows' (.error e) v

/-- The writes succeed and leave certain rows, if and only if they do so as writes to the rows. -/
theorem Writes.ok_iff {g : Gateway} {w v : Work δ}
    {rows' : Option (store.Address → Option (List ColumnValue))} {r : Except Error Unit}
    (h : store.Writes g w rows' r v) (rows : store.Address → Option (List ColumnValue)) :
    r = .ok () ∧ store.rows g.connection v.site.outside = rows ↔ rows' = some rows := by
  cases h with
  | done _ hrows =>
    rw [hrows, Option.some.injEq]
    exact ⟨fun h => h.2, fun h => ⟨rfl, h⟩⟩
  | failed hrows =>
    rw [hrows]
    exact ⟨nofun, nofun⟩

/-- Only an insert is as urgent as an insert. -/
theorem Means.eq_insert {h : Heap} {g : Gateway} {a : Action}
    {x : RowWrite store.Address (List ColumnValue)} (hmeans : store.Means h g a x)
    (ha : a.priority ≤ 1) : ∃ b row, x = .insert b row := by
  cases hmeans with
  | insert => exact ⟨_, _, rfl⟩
  | delete => exact absurd ha (show ¬(3 : UInt8) ≤ 1 by decide)

theorem Means.eq_delete {h : Heap} {g : Gateway} {a : Action}
    {x : RowWrite store.Address (List ColumnValue)} (hmeans : store.Means h g a x)
    (ha : 1 < a.priority) : ∃ b, x = .delete b := by
  cases hmeans with
  | insert => exact absurd ha (show ¬(1 : UInt8) < 1 by decide)
  | delete => exact ⟨_, rfl⟩

/-- In the order of urgency the inserts come first and the deletes last. -/
theorem exists_sorted {h : Heap} {g : Gateway} {order as : List Action}
    {xs : List (RowWrite store.Address (List ColumnValue))} (hperm : order.Perm as)
    (hsorted : order.Pairwise fun a b => a.priority ≤ b.priority)
    (hmeans : List.Forall₂ (store.Means h g) as xs) :
    ∃ inserts deletes, List.Forall₂ (store.Means h g) order (inserts ++ deletes) ∧
      (inserts ++ deletes).Perm xs ∧ (∀ x ∈ inserts, ∃ a row, x = .insert a row) ∧
      ∀ x ∈ deletes, ∃ a, x = .delete a := by
  obtain ⟨front, back, rfl, hfront, hback⟩ := Queue.exists_split hsorted 1
  obtain ⟨inserts, deletes, hwrites, hinserts, hdeletes⟩ := exists_append_of_perm hmeans.flip hperm
  refine ⟨inserts, deletes, List.rel_append hinserts.flip hdeletes.flip, hwrites, fun x hx => ?_,
    fun x hx => ?_⟩
  · obtain ⟨a, hmem, ha⟩ := exists_mem_zip_of_forall₂ hinserts hx
    exact ha.eq_insert (hfront a (List.of_mem_zip hmem).2)
  · obtain ⟨a, hmem, ha⟩ := exists_mem_zip_of_forall₂ hdeletes hx
    exact ha.eq_delete (hback a (List.of_mem_zip hmem).2)

/-- Among actions in the order of their urgency no row is inserted after it was deleted. -/
theorem pairwise_of_sorted {h : Heap} {g : Gateway} {as : List Action}
    {xs : List (RowWrite store.Address (List ColumnValue))}
    (hmeans : List.Forall₂ (store.Means h g) as xs)
    (hsorted : as.Pairwise fun a b => a.priority ≤ b.priority) :
    xs.Pairwise fun x y => ∀ a row, x = .delete a → y ≠ .insert a row := by
  induction hmeans with
  | nil => exact .nil
  | @cons a x as xs ha has ih =>
    obtain ⟨hle, hsorted⟩ := List.pairwise_cons.1 hsorted
    refine List.pairwise_cons.2 ⟨fun y hy b row hx hyrow => ?_, ih hsorted⟩
    subst hx hyrow
    obtain ⟨a', hmem, ha'⟩ := exists_mem_zip_of_forall₂ has.flip hy
    -- so the delete is no less urgent than the insert
    by_cases hurgent : a.priority ≤ 1
    · obtain ⟨c, row', heq⟩ := ha.eq_insert hurgent
      cases heq
    · have hlater := UInt8.lt_of_lt_of_le (UInt8.not_le.1 hurgent) (hle a' (List.of_mem_zip hmem).2)
      obtain ⟨c, heq⟩ := TableStore.Means.eq_delete ha' hlater
      cases heq

/-- An instance with an identifier is inserted by one statement, and then nothing is left to do. -/
theorem save_assigned {g : Gateway} {i : InstanceId} {m : Metadata} {id : Value} {values : List Value}
    {s t : Site δ} {answer : Except Error InsertResult} (hm : S.metadata (s.heap.typeOf i) = .ok m)
    (hid : s.heap.id S i = .ok id) (hn : id ≠ .null)
    (hvalues : Gateway.parameters S s.heap i m.fields = .ok values)
    (hsend : (g.send (Statement.insert m.table.name m.columnNames).render
      (Gateway.fault m .insertFailed (Statement.insert m.table.name m.columnNames).render none)
      (Database.insert g.connection (Statement.insert m.table.name m.columnNames).render values)).perform
        s = (answer, t)) :
    (∀ keys, answer = .ok ⟨1, keys⟩ → (g.save S i).perform s = (.ok (), t)) ∧
      ∀ e, answer = .error e → (g.save S i).perform s = (.error e, t) := by
  have hfields := Gateway.insertFields_of_ne_null (m := m) hn
  have hinsertion : Gateway.insertion S s.heap i = .ok ⟨m, id, values⟩ :=
    Gateway.insertion_eq_ok.2 ⟨hm, hid, by rwa [Gateway.Insertion.fields, hfields]⟩
  have hsql : (⟨m, id, values⟩ : Gateway.Insertion).sql =
      (Statement.insert m.table.name m.columnNames).render := by
    rw [Gateway.Insertion.sql, Gateway.Insertion.columns, Gateway.Insertion.fields, hfields]
    rfl
  have hlook : (Site.look fun h => Gateway.insertion S h i).perform s = (.ok ⟨m, id, values⟩, s) :=
    Prod.ext hinsertion rfl
  rw [Gateway.save_eq, Act.perform_bind_of_ok hlook, hsql]
  constructor
  · rintro keys rfl
    refine (Act.perform_bind_of_ok hsend _).trans ?_
    rw [Gateway.afterInsert, if_neg (by simp), if_neg (mt (Value.isNull_iff id).1 hn)]
    rfl
  · rintro e rfl
    exact Act.perform_bind_of_error hsend _

/-- A row of a known type is deleted by one statement. -/
theorem deleteByKey_known {g : Gateway} {k : EntityKey} {m : Metadata} {n : Nat} {s : Site δ}
    (hm : S.metadata k.entity = .ok m)
    (hanswer : (Database.execute g.connection
      (Statement.delete m.table.name m.identifier.column).render [k.id] s.outside).1 = .ok n) :
    ∃ t, (g.deleteByKey S k).perform s = (.ok n, t) ∧ t.heap = s.heap ∧
      t.outside = (Database.execute g.connection
        (Statement.delete m.table.name m.identifier.column).render [k.id] s.outside).2 := by
  rw [Gateway.deleteByKey, Act.perform_lift_bind_of_ok hm, Gateway.perform_send, hanswer]
  exact ⟨_, rfl, rfl, rfl⟩

variable [Callbacks δ] {h : Heap} {g : Gateway} {w : Work δ}

/-- An action does to the rows what it means. -/
theorem Means.writes {a : Action} {x : RowWrite store.Address (List ColumnValue)}
    (hmeans : store.Means h g a x) (hw : w.site.heap = h) :
    store.Writes g w (x.apply (store.rows g.connection w.site.outside)) ((a.run S).perform w).1
      ((a.run S).perform w).2 := by
  subst hw
  cases hmeans with
  | @insert entity i m id values hm hid hn hvalues =>
    have hvalues' := Gateway.parameters_eq_ok.1 hvalues
    obtain ⟨v, hv, hwritten⟩ :=
      exists_mem_zip_of_forall₂ hvalues' m.identifier_mem
    have hcast := Heap.written_identifier hm hid hwritten
    have hanswer := store.insert g.connection w.site.outside hm hvalues'.length_eq.symm hv hcast hn
    obtain ⟨hok, herror⟩ := save_assigned hm hid hn hvalues (Gateway.perform_send ..)
    rw [Action.run, Work.perform_onSite]
    rcases hanswer with ⟨rows', happly, ⟨keys, hkeys⟩, hrows⟩ | ⟨happly, e, he⟩
    · rw [hok keys (by rw [hkeys]; rfl)]
      exact .done rfl (by rw [happly, ← hrows])
    · rw [herror _ (by rw [he]; rfl)]
      exact .failed happly
  | @delete k m hm hn =>
    obtain ⟨⟨n, hanswer⟩, hrows⟩ := store.delete g.connection w.site.outside hm hn
    obtain ⟨t, ht, hheap, houtside⟩ := deleteByKey_known hm hanswer
    rw [Action.run, Act.perform_bind_of_ok (Work.perform_onSite_ok.2 ⟨t, ht, rfl⟩)]
    exact .done hheap (houtside ▸ hrows)

/-- Actions that are run one after another do to the rows what they mean, as far as they come. -/
theorem writes_each {as : List Action} {xs : List (RowWrite store.Address (List ColumnValue))}
    (hmeans : List.Forall₂ (store.Means h g) as xs) (hw : w.site.heap = h) :
    store.Writes g w (RowWrite.run xs (store.rows g.connection w.site.outside))
      ((Act.each (Action.run S) as).perform w).1 ((Act.each (Action.run S) as).perform w).2 := by
  induction hmeans generalizing w with
  | nil => exact .done rfl rfl
  | @cons a x as xs ha has ih =>
    have hfirst := ha.writes hw
    rw [Act.each, RowWrite.run]
    rcases hrun : (a.run S).perform w with ⟨r, v⟩
    rw [hrun] at hfirst
    cases hfirst with
    | @done t hheap hrows =>
      rw [Act.perform_bind_of_ok hrun, hrows, Option.bind_some]
      have hrest := ih (w := { w with site := t }) (hheap.trans hw)
      generalize (Act.each (Action.run S) as).perform { w with site := t } = result at hrest
      obtain ⟨r, v⟩ := result
      cases hrest with
      | done hheap' hrows' => exact .done (hheap'.trans hheap) hrows'
      | failed hrows' => exact .failed hrows'
    | failed hrows =>
      rw [Act.perform_bind_of_error hrun, hrows]
      exact .failed rfl

/-- An insert of an instance with an identifier that was run with success has a meaning. -/
theorem exists_means_insert {entity : String} {i : InstanceId} {id : Value} {v : Work δ}
    (hid : w.site.heap.id S i = .ok id) (hn : id ≠ .null)
    (hrun : ((Action.insert g entity i).run S).perform w = (.ok (), v)) :
    ∃ x, store.Means w.site.heap g (.insert g entity i) x := by
  obtain ⟨t, ht, -⟩ := Work.perform_onSite_ok.1 hrun
  rw [Gateway.save_eq] at ht
  obtain ⟨⟨m, id', values⟩, u, hu, -⟩ := Act.perform_bind_ok.1 ht
  obtain ⟨hm, hid', hvalues⟩ := Gateway.insertion_eq_ok.1 (Prod.mk.inj hu).1
  obtain rfl : id = id' := Except.ok.inj (hid.symm.trans hid')
  rw [Gateway.Insertion.fields, Gateway.insertFields_of_ne_null hn] at hvalues
  exact ⟨_, .insert hm hid hn hvalues⟩

/-- A delete that was run with success has a meaning. -/
theorem exists_means_delete {k : EntityKey} {v : Work δ} (hn : k.id ≠ .null)
    (hrun : ((Action.delete g k).run S).perform w = (.ok (), v)) :
    ∃ x, store.Means w.site.heap g (.delete g k) x := by
  obtain ⟨n, u, hu, -⟩ := Act.perform_bind_ok.1 hrun
  obtain ⟨t, ht, -⟩ := Work.perform_onSite_ok.1 hu
  obtain ⟨m, u, hu, -⟩ := Act.perform_bind_ok.1 ht
  obtain ⟨hm, -⟩ := Prod.mk.inj hu
  exact ⟨_, .delete hm hn⟩

end TableStore

end EntitySession
