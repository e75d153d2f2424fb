import EntitySession.Proofs.Casts
import EntitySession.Proofs.Provenance
import EntitySession.Proofs.SameColumns

/-!
# The identifiers that address rows

An instance holds its identifier in a form of its own, which need not be the declared one.  Its key has
the declared form, and so has every value that addresses its row from then on: that of a select, of an
update, of a delete, and the join column of every reference to the instance (`Session.addresses`).  An
insert casts the references and nothing else, so the row gets the identifier as the instance holds it.
That is the identifier of the key exactly if it was held in the declared form.

Where it was not, a database that tells the two forms apart does not find the row again: `Badges.lost`
shows a badge whose number is declared to be a decimal and held as a whole number.  Its row is inserted
into a SQLite table and cannot be deleted.
-/

set_option autoImplicit false

namespace EntitySession

variable {δ : Type} [Database δ] {S : Schema} {g : Gateway} {i : InstanceId} {m : Metadata}
  {k : EntityKey} {s t : Site (Recorded δ)} {w : Work (Recorded δ)}

/-! ## What is sent -/

/-- One more statement was sent. -/
def Site.SendsOne (s t : Site (Recorded δ)) (x : Exchange) : Prop :=
  t.outside.exchanges = s.outside.exchanges ++ [x]

omit [Database δ] in
/-- A change of the instances sends nothing. -/
theorem Site.outside_of_change {α : Type} {f : Heap → Except Error (α × Heap)} {r : Except Error α}
    (h : (Site.change f).perform s = (r, t)) : t.outside = s.outside := by
  rw [change, Act.perform_of] at h
  split at h <;> cases h <;> rfl

namespace Gateway

/-- The insert of an instance with an identifier lists all columns, the identifier's with what is written
for it. -/
theorem save_sendsOne (g : Gateway) {s : Site (Recorded δ)} {id v : Value}
    (hm : S.metadata (s.heap.typeOf i) = .ok m) (hid : s.heap.id S i = .ok id) (hn : id ≠ .null)
    (hv : s.heap.written S i m.identifier = .ok v) :
    (∃ e, (g.save S i).perform s = (.error e, s)) ∨
      ∃ values answer, s.SendsOne ((g.save S i).perform s).2
        (.insert g.connection (Statement.insert m.table.name m.columnNames).render values answer) ∧
          (m.identifier.column, v) ∈ m.columnNames.zip values := by
  cases hinsertion : insertion S s.heap i with
  | error e => exact .inl ⟨e, save_of_insertion_error hinsertion⟩
  | ok n =>
    obtain ⟨answer, hsent⟩ := save_of_insertion_ok (g := g) hinsertion
    obtain ⟨m', id', values⟩ := n
    obtain ⟨hm', hid', hvalues⟩ := insertion_eq_ok.1 hinsertion
    obtain rfl : m = m' := Except.ok.inj (hm.symm.trans hm')
    obtain rfl : id = id' := Except.ok.inj (hid.symm.trans hid')
    have hfields : insertFields m id = m.fields := insertFields_of_ne_null hn
    rw [Insertion.fields, hfields, parameters_eq_ok] at hvalues
    refine .inr ⟨values, answer, ?_, ?_⟩
    · rw [Site.SendsOne, hsent, Insertion.sql, Insertion.columns, Insertion.fields, hfields]
      rfl
    · obtain ⟨u, hmem, hu⟩ :=
        exists_mem_zip_of_forall₂ hvalues m.identifier_mem
      obtain rfl := Except.ok.inj (hu.symm.trans hv)
      rw [Metadata.columnNames, List.zip_map_left]
      exact List.mem_map_of_mem hmem

/-- A search for an identifier sends one select, whatever comes of it. -/
theorem findById_sendsOne (g : Gateway) (loader : Loader) (hm : S.metadata k.entity = .ok m)
    (s : Site (Recorded δ)) :
    ∃ answer, s.SendsOne ((g.findById S loader k.entity k.id).perform s).2
      (.query g.connection (selectBy m m.identifier.column).render [k.id] answer) := by
  refine ⟨(Database.query g.connection (selectBy m m.identifier.column).render [k.id] s.outside).1, ?_⟩
  rw [findById, Act.perform_lift_bind_of_ok hm]
  refine Act.after_bind (P := fun t => s.SendsOne t _) (fun rows t ht => ?_) fun e t ht => ?_
  · obtain ⟨-, rfl⟩ := perform_send_ok ht
    cases rows with
    | nil => rfl
    | cons row _ =>
      refine Act.after_bind (P := fun t => s.SendsOne t _) (fun i t hi => ?_) fun e t he => ?_
      · exact congrArg Recorded.exchanges (Site.outside_of_change hi)
      · exact congrArg Recorded.exchanges (Site.outside_of_change he)
  · obtain ⟨-, rfl⟩ := Prod.mk.inj ht
    rfl

theorem update_sendsOne (g : Gateway) (hm : S.metadata k.entity = .ok m) {columns : List ColumnValue}
    (hc : columns ≠ []) (s : Site (Recorded δ)) :
    ∃ answer, s.SendsOne ((g.update S k columns).perform s).2
      (.execute g.connection
        (Statement.update m.table.name (columns.map ColumnValue.column) m.identifier.column).render
        (columns.map ColumnValue.value ++ [k.id]) answer) := by
  rw [update, if_neg (by simpa using hc), Act.perform_lift_bind_of_ok hm]
  exact ⟨_, rfl⟩

theorem deleteByKey_sendsOne (g : Gateway) (hm : S.metadata k.entity = .ok m) (s : Site (Recorded δ)) :
    ∃ answer, s.SendsOne ((g.deleteByKey S k).perform s).2
      (.execute g.connection (Statement.delete m.table.name m.identifier.column).render [k.id]
        answer) := by
  rw [deleteByKey, Act.perform_lift_bind_of_ok hm]
  exact ⟨_, rfl⟩

/-- The row of an instance is deleted under its key. -/
theorem delete_eq_deleteByKey (g : Gateway) {s : Site (Recorded δ)} (hk : s.heap.key S i = .ok k) :
    (g.delete S i).perform s = (g.deleteByKey S k).perform s := by
  have hlook : (Site.look fun h => h.key S i).perform s = (.ok k, s) := Prod.ext hk rfl
  rw [delete, Act.perform_bind_of_ok hlook]

end Gateway

namespace Session

/-- An identifier that is not tracked is looked for in its declared form. -/
theorem find_sendsOne (hm : S.metadata k.entity = .ok m) {u : Value}
    (hu : u.cast m.identifier.sqlType = .ok k.id) (hopen : w.session.isOpen = true)
    (hk : w.session.context.get? k = none) :
    ∃ answer, w.site.SendsOne ((find S k.entity u).perform w).2.site
      (.query w.session.gateway.connection (Gateway.selectBy m m.identifier.column).render [k.id]
        answer) := by
  have hkey : EntityKey.of S.mappings k.entity u = .ok k := EntityKey.of_eq_ok.2 ⟨m, hm, hu, rfl⟩
  obtain ⟨answer, hsent⟩ :=
    Gateway.findById_sendsOne w.session.gateway w.session.loader hm w.site
  have hlook : (Work.look fun s _ => .ok (s.context.get? k)).perform w = (.ok none, w) :=
    Work.perform_look_of_ok (congrArg Except.ok hk)
  have hself : (Work.look fun s _ => .ok s).perform w = (.ok w.session, w) := Work.perform_look_of_ok rfl
  refine ⟨answer, ?_⟩
  rw [find, Act.perform_bind_of_ok (ensureOpen_open hopen), Act.perform_lift_bind_of_ok hkey,
    Act.perform_bind_of_ok hlook]
  dsimp only
  rw [Act.perform_bind_of_ok hself]
  refine Work.after_onSite_bind (P := fun v => w.site.SendsOne v.site _) (fun loaded t ht => ?_)
    fun e t ht => ?_
  · rw [ht] at hsent
    cases loaded with
    | none => exact hsent
    | some l =>
      rw [Act.perform_map, (adopt_tracks (S := S) k l _).site]
      exact hsent
  · rw [ht] at hsent
    exact hsent

end Session

/-! ## What addresses a row -/

/-- The values by which the statements about an instance address its row: an insert gives it the value
`v`, and everything else has the identifier of the key `k`. -/
structure Session.Addresses (S : Schema) (w : Work (Recorded δ)) (i : InstanceId) (m : Metadata)
    (k : EntityKey) (v : Value) : Prop where
  /-- If the insert can be put together at all, it lists the identifier's column with `v`. -/
  inserts : ∀ g : Gateway, (∃ e, (g.save S i).perform w.site = (.error e, w.site)) ∨
    ∃ values answer, w.site.SendsOne ((g.save S i).perform w.site).2
      (.insert g.connection (Statement.insert m.table.name m.columnNames).render values answer) ∧
        (m.identifier.column, v) ∈ m.columnNames.zip values
  /-- Under any form of the identifier of the key, an instance that is not tracked is looked for with that
  of the key. -/
  finds : ∀ u, u.cast m.identifier.sqlType = .ok k.id → w.session.isOpen = true →
    w.session.context.get? k = none →
      ∃ answer, w.site.SendsOne ((find S k.entity u).perform w).2.site
        (.query w.session.gateway.connection (Gateway.selectBy m m.identifier.column).render [k.id]
          answer)
  /-- An update that has columns is one of the row with the identifier of the key. -/
  updates : ∀ (g : Gateway) (columns : List ColumnValue), columns ≠ [] →
    ∃ answer, w.site.SendsOne ((g.update S k columns).perform w.site).2
      (.execute g.connection
        (Statement.update m.table.name (columns.map ColumnValue.column) m.identifier.column).render
        (columns.map ColumnValue.value ++ [k.id]) answer)
  /-- The row of the instance is deleted under its key. -/
  deletes : ∀ g : Gateway, (g.delete S i).perform w.site = (g.deleteByKey S k).perform w.site ∧
    ∃ answer, w.site.SendsOne ((g.delete S i).perform w.site).2
      (.execute g.connection (Statement.delete m.table.name m.identifier.column).render [k.id] answer)
  /-- A reference to the instance writes the identifier of the key to its join column. -/
  references : ∀ j m' f r, S.metadata (w.site.heap.typeOf j) = .ok m' → f ∈ m'.fields →
    f.role = .reference k.entity → w.site.heap.read S j f.name = .ok (.reference r) →
      r.get? = some i → w.site.heap.written S j f = .ok k.id

/-- A reference whose target is there writes the identifier of the target. -/
theorem Reference.foreignKey_of_get? {idOf : InstanceId → Except Error Value} {r : Reference}
    (hi : r.get? = some i) : r.foreignKey idOf = idOf i := by
  obtain ⟨target, htarget, rfl⟩ : ∃ target, r.result? = some target ∧ target = some i := by
    simpa [get?, Option.join_eq_some_iff] using hi
  cases r with
  | empty => cases htarget
  | loaded => cases htarget; rfl
  | unloaded key result supplier => cases htarget; rfl

namespace Heap

variable {h : Heap}

/-- What is written for a reference is the identifier of its target. -/
theorem written_of_get? {j : InstanceId} {m' : Metadata} {f : PersistentField} {r : Reference}
    (hm : S.metadata k.entity = .ok m) (hk : h.key S i = .ok k) (hm' : S.metadata (h.typeOf j) = .ok m')
    (hf : f ∈ m'.fields) (hrole : f.role = .reference k.entity)
    (hr : h.read S j f.name = .ok (.reference r)) (hi : r.get? = some i) :
    h.written S j f = .ok k.id := by
  obtain ⟨hid, htype⟩ := key_eq_ok.1 hk
  obtain ⟨u, -, hcast⟩ := (id_eq_ok_of_metadata (htype ▸ hm)).1 hid
  have hforeign : r.foreignKey (h.id S) = .ok k.id := by
    rw [Reference.foreignKey_of_get? hi]
    exact hid
  refine (written_of_reference (PersistentField.isReference_iff.2 ⟨_, hrole⟩)).2
    ⟨k.id, get_eq_ok.2 (.inr ⟨r, hr, hforeign⟩), ?_⟩
  rw [Mappings.resolve_reference hm' hf hrole hm]
  exact Value.cast_cast hcast

end Heap

namespace Session

/-- **The identifiers that address a row.** If an instance has an identifier, then whatever value is held for
it is a form of the identifier of its key; an insert gives the row this value, and everything else has the
identifier of the key.  The two are one exactly if the value is held in the declared form. -/
theorem addresses (hm : S.metadata (w.site.heap.typeOf i) = .ok m) (hk : w.site.heap.key S i = .ok k)
    (hn : k.id ≠ .null) :
    ∃ v, w.site.heap.written S i m.identifier = .ok v ∧ v.cast m.identifier.sqlType = .ok k.id ∧
      (v = k.id ↔ v.cast m.identifier.sqlType = .ok v) ∧ Addresses S w i m k v := by
  obtain ⟨hid, htype⟩ := Heap.key_eq_ok.1 hk
  obtain ⟨v, hv, hcast⟩ := Heap.exists_written_identifier hm hid
  have hentity : S.metadata k.entity = .ok m := htype ▸ hm
  have hform : v = k.id ↔ v.cast m.identifier.sqlType = .ok v := by
    constructor
    · intro h
      rw [h]
      exact Value.cast_cast hcast
    · intro h
      exact Except.ok.inj (h.symm.trans hcast)
  refine ⟨v, hv, hcast, hform, ?_⟩
  constructor
  case inserts => exact fun g => Gateway.save_sendsOne g hm hid hn hv
  case finds => exact fun u hu => find_sendsOne hentity hu
  case updates => exact fun g columns hc => Gateway.update_sendsOne g hentity hc w.site
  case deletes =>
    intro g
    rw [Gateway.delete_eq_deleteByKey g hk]
    exact ⟨rfl, Gateway.deleteByKey_sendsOne g hentity w.site⟩
  case references =>
    exact fun j m' f r hm' hf hrole hr hi => Heap.written_of_get? hentity hk hm' hf hrole hr hi

end Session

/-! ### Badges -/

namespace Badges

/-- The number of a badge is declared to be a decimal. -/
def badges : Declaration :=
  { entity := "Badge", marked := true, table := none, constructionFault := none, bindable := true
    fields := [⟨{ Field.simple "number" .decimal with isId := true }, .anyValue⟩] }

/-- A locker has a number of its own and a holder. -/
def lockers : Declaration :=
  { entity := "Locker", marked := true, table := none, constructionFault := none, bindable := true
    fields :=
      [⟨{ Field.simple "number" .bigInt with isId := true }, .anyValue⟩,
       ⟨{ Field.simple "holder" .text with
          association := some ⟨.manyToOne, "Badge", none, .list, none⟩ },
        .container (.reference "Badge" .empty) true⟩] }

def schema : Schema := Declaration.schema [badges, lockers]

/-- A SQLite database with a table for badges. -/
def scene : Rehearsal.Scene :=
  let opened := (Rehearsal.Scene.openSqlite Sqlite.OpenOptions.memory .empty).2
  (Database.execute 0 "CREATE TABLE Badge (number)" [] opened).2

/-- Of two badges the first holds its number as a decimal, and the second, which is the holder of a
locker, as a whole number. -/
def hall : Work (Recorded Rehearsal.Scene) :=
  let heap := (Heap.empty.add "Badge" ⟨[("number", .decimal "7")], []⟩).2
  let heap := (heap.add "Badge" ⟨[("number", .bigInt 8)], []⟩).2
  let heap := (heap.add "Locker" ⟨[("number", .bigInt 1)], [("holder", .reference "Badge" (.loaded 1))]⟩).2
  { site := { heap, outside := ⟨scene, []⟩, log := [] }
    session := .start ⟨0, false⟩ (.session 0) }

theorem addresses_hall : ∃ m, schema.metadata "Badge" = .ok m ∧
    Session.Addresses schema hall 0 m ⟨"Badge", .decimal "7"⟩ (.decimal "7") ∧
    Session.Addresses schema hall 1 m ⟨"Badge", .decimal "8"⟩ (.bigInt 8) := by
  obtain ⟨m, hm⟩ := exists_of_isOk (show (schema.metadata "Badge").isOk = true by decide +kernel)
  have haddresses (i : InstanceId) {id u : Value} (hi : hall.site.heap.typeOf i = "Badge")
      (hid : (hall.site.heap.id schema i).toOption = some id) (hn : id ≠ .null)
      (hu : ((schema.metadata "Badge").bind fun m =>
        hall.site.heap.written schema i m.identifier).toOption = some u) :
      Session.Addresses schema hall i m ⟨"Badge", id⟩ u := by
    have hk : hall.site.heap.key schema i = .ok ⟨"Badge", id⟩ :=
      Heap.key_eq_ok.2 ⟨ok_of_toOption hid, hi⟩
    obtain ⟨v, hv, -, -, h⟩ := Session.addresses (hi ▸ hm) hk hn
    have hu := ok_of_toOption hu
    rw [hm] at hu
    exact Except.ok.inj (hv.symm.trans hu) ▸ h
  refine ⟨m, hm, haddresses 0 ?_ ?_ ?_ ?_, haddresses 1 ?_ ?_ ?_ ?_⟩
  all_goals decide +kernel

/-- A badge is inserted and, later, deleted. -/
def day (i : InstanceId) : Work (Recorded Rehearsal.Scene) :=
  let acts : Act (Work (Recorded Rehearsal.Scene)) Unit := do
    Session.persist schema i
    Session.flush schema
    Session.delete schema i
    Session.flush schema
  (acts.perform hall).2

/-- The values that were sent. -/
def sent (w : Work (Recorded Rehearsal.Scene)) : List (List Value) :=
  w.site.outside.exchanges.map fun
    | .query _ _ values _ | .execute _ _ values _ | .insert _ _ values _ => values

/-- The numbers of the badges that are in the database. -/
def left (w : Work (Recorded Rehearsal.Scene)) : Option (List (List Value)) :=
  (Database.query 0 "SELECT number FROM Badge" [] w.site.outside.outside).1.toOption.map fun rows =>
    rows.map Row.cells

/-- The badge whose number is held as a whole number is inserted with this number.  It is to be deleted
under the decimal, by which its locker refers to it too, and it stays. -/
theorem lost : (hall.site.heap.id schema 1).toOption = some (.decimal "8") ∧
    (Session.updateColumns schema hall.site.heap 2).toOption.map (·.map ColumnValue.value) =
      some [.decimal "8"] ∧
    sent (day 1) = [[.bigInt 8], [.decimal "8"]] ∧ left (day 1) = some [[.int 8]] ∧
    sent (day 0) = [[.decimal "7"], [.decimal "7"]] ∧ left (day 0) = some [] := by
  refine ⟨?_, ?_, ?_, ?_, ?_, ?_⟩
  all_goals decide +kernel

end Badges

end EntitySession
