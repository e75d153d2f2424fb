import EntitySession.Proofs.Flush

/-!
# Inserts and updates write the same columns

An insert lists the fields of a type in the order of their declaration, without the identifier if there
is none, reads all of them and casts the references afterwards.  An update takes the simple fields first
and the references after them, and casts each reference as it is read.  `Session.writes_agree` says that
nothing depends on it.  In every state of an instance that has an identifier, NULL or not, either neither
write can be put together, or both write the same values to the same columns; the identifier's own
column is written by an insert only.

All that can keep either write from being put together is a field other than the identifier for which
there is nothing to write (`Gateway.exists_insertion_iff`, `Session.exists_updateColumns_iff`), so one
fails with the other.  The columns are the same because the roles of the fields, by which an update
selects, tell the identifier from the others just as its column does
(`Metadata.Sound.column_eq_identifier_iff`).
-/

set_option autoImplicit false

namespace EntitySession

variable {S : Schema} {h : Heap} {i : InstanceId} {m : Metadata} {id : Value}

/-! ## The fields that are listed -/

/-- The identifier is the field with the identifier's column. -/
theorem Metadata.Sound.column_eq_identifier_iff (hs : m.Sound) {f : PersistentField} (hf : f ∈ m.fields) :
    f.column = m.identifier.column ↔ f.role = .identifier := by
  constructor
  · intro hcolumn
    rw [List.inj_on_of_nodup_map hs.columns_nodup hf m.identifier_mem hcolumn]
    exact hs.identifier_role
  · intro hrole
    rw [hs.eq_identifier f hf hrole]

theorem Metadata.Sound.nonIdFields_eq_filter (hs : m.Sound) :
    m.nonIdFields = m.fields.filter fun f => f.column != m.identifier.column := by
  rw [hs.nonIdFields_eq]
  refine List.filter_congr fun f hf => ?_
  rw [Bool.eq_iff_iff, bne_iff_ne, bne_iff_ne, ne_eq, ne_eq, hs.column_eq_identifier_iff hf]

namespace Gateway

theorem insertFields_null : insertFields m .null = m.nonIdFields := rfl

/-- With or without an identifier, the other fields are listed. -/
theorem insertFields_filter (hs : m.Sound) :
    ((insertFields m id).filter fun f => f.column != m.identifier.column) = m.nonIdFields := by
  by_cases hn : id = .null
  · rw [hn, insertFields_null, hs.nonIdFields_eq_filter, List.filter_filter]
    simp only [Bool.and_self]
  · rw [insertFields_of_ne_null hn, hs.nonIdFields_eq_filter]

theorem insertFields_sublist : (insertFields m id).Sublist m.fields := by
  by_cases hn : id = .null
  · rw [hn, insertFields_null]
    exact m.nonIdFields_sublist
  · rw [insertFields_of_ne_null hn]

/-- The column of the identifier is listed exactly if there is one. -/
theorem identifier_mem_insertFields_iff (hs : m.Sound) :
    m.identifier.column ∈ (insertFields m id).map PersistentField.column ↔ id ≠ .null := by
  by_cases hn : id = .null
  · rw [hn, insertFields_null, hs.nonIdFields_eq_filter]
    simp
  · rw [insertFields_of_ne_null hn]
    exact ⟨fun _ => hn, fun _ => List.mem_map_of_mem m.identifier_mem⟩

end Gateway

/-! ## Whether there is something to write -/

/-- An insert can be put together exactly if there is something to write for every field other than the
identifier. -/
theorem Gateway.exists_insertion_iff (hm : S.metadata (h.typeOf i) = .ok m) (hid : h.id S i = .ok id) :
    (∃ n, insertion S h i = .ok n) ↔ ∀ f ∈ m.nonIdFields, ∃ v, h.written S i f = .ok v := by
  have hs := Mappings.sound_of_resolve hm
  constructor
  · rintro ⟨⟨m', id', values⟩, hn⟩ f hf
    obtain ⟨hm', -, hvalues⟩ := insertion_eq_ok.1 hn
    obtain rfl : m = m' := Except.ok.inj (hm.symm.trans hm')
    have hlisted : ((insertFields m id').filter fun f => f.column != m.identifier.column) = m.nonIdFields :=
      insertFields_filter hs
    rw [← hlisted] at hf
    obtain ⟨v, -, hv⟩ :=
      exists_mem_zip_of_forall₂ (parameters_eq_ok.1 hvalues) (List.mem_filter.1 hf).1
    exact ⟨v, hv⟩
  · intro hall
    have hfields : ∀ f ∈ insertFields m id, ∃ v, h.written S i f = .ok v := by
      intro f hf
      have hf := insertFields_sublist.subset hf
      by_cases hrole : f.role = .identifier
      · rw [hs.eq_identifier f hf hrole]
        obtain ⟨v, hv, -⟩ := Heap.exists_written_identifier hm hid
        exact ⟨v, hv⟩
      · exact hall f (hs.mem_nonIdFields.2 ⟨hf, hrole⟩)
    obtain ⟨values, hvalues⟩ := exists_forall₂_of_forall hfields
    exact ⟨⟨m, id, values⟩, insertion_eq_ok.2 ⟨hm, hid, parameters_eq_ok.2 hvalues⟩⟩

/-- The columns of an update can be collected exactly if there is something to write for every field other
than the identifier. -/
theorem Session.exists_updateColumns_iff (hm : S.metadata (h.typeOf i) = .ok m) :
    (∃ columns, updateColumns S h i = .ok columns) ↔
      ∀ f ∈ m.nonIdFields, ∃ v, h.written S i f = .ok v := by
  constructor
  · rintro ⟨columns, hcolumns⟩ f hf
    obtain ⟨m', fields, hm', hperm, hfields⟩ := updateColumns_ok hcolumns
    cases hm.symm.trans hm'
    obtain ⟨c, -, -, hc⟩ := exists_mem_zip_of_forall₂ hfields (hperm.mem_iff.2 hf)
    exact ⟨c.value, hc⟩
  · intro hall
    have hwritten := (Mappings.sound_of_resolve hm).written_perm
    have hsimple : ∀ f ∈ m.simpleFields, ∃ c : ColumnValue,
        c.column = f.column ∧ h.written S i f = .ok c.value := by
      intro f hf
      obtain ⟨v, hv⟩ := hall f (hwritten.mem_iff.1 (List.mem_append_left _ hf))
      exact ⟨⟨f.column, v⟩, rfl, hv⟩
    have hreferences : ∀ f ∈ m.references, ∃ r : RelationValue,
        r.target = f.2 ∧ r.column = f.1.column ∧ h.written S i f.1 = .ok r.value := by
      intro f hf
      have hmem := List.mem_append_right m.simpleFields (List.mem_map_of_mem (f := Prod.fst) hf)
      obtain ⟨v, hv⟩ := hall f.1 (hwritten.mem_iff.1 hmem)
      exact ⟨⟨f.2, f.1.column, v⟩, rfl, rfl, hv⟩
    obtain ⟨columns, hcolumns⟩ := exists_forall₂_of_forall hsimple
    obtain ⟨relations, hrelations⟩ := exists_forall₂_of_forall hreferences
    exact ⟨_, bind_eq_ok.2 ⟨columns, Heap.columnValues_eq_written.2 ⟨m, hm, hcolumns⟩,
      bind_eq_ok.2 ⟨relations, Heap.relationValues_eq_written.2 ⟨m, hm, hrelations⟩, rfl⟩⟩⟩

/-! ## The columns -/

/-- What is to be written for a field: of a simple one what it holds, of a reference the identifier that
it refers to, in the form that the target declares for its identifiers. -/
inductive Heap.Due (S : Schema) (h : Heap) (i : InstanceId) (f : PersistentField) : Value → Prop
  | simple {v : Value} (hrole : f.role = .simple) (hv : h.get S i f.name = .ok v) : Due S h i f v
  | reference {target : String} {d : Field} {u v : Value} (hrole : f.role = .reference target)
      (hd : (S.mappings target).idFields.head? = some d) (hu : h.get S i f.name = .ok u)
      (hv : u.cast d.sqlType = .ok v) : Due S h i f v

theorem Heap.due_of_written (hm : S.metadata (h.typeOf i) = .ok m) {f : PersistentField}
    (hf : f ∈ m.nonIdFields) {v : Value} (hv : h.written S i f = .ok v) : h.Due S i f v := by
  obtain ⟨hf, hrole⟩ := (Mappings.sound_of_resolve hm).mem_nonIdFields.1 hf
  cases hfrole : f.role with
  | identifier => exact absurd hfrole hrole
  | simple =>
    have hplain : f.isReference = false := by
      rw [PersistentField.isReference, hfrole]
      rfl
    exact .simple hfrole (written_of_simple hplain ▸ hv)
  | reference target =>
    obtain ⟨d, hd, htype⟩ := Mappings.resolve_referenceType hm hf hfrole
    have hreference := PersistentField.isReference_iff.2 ⟨target, hfrole⟩
    obtain ⟨u, hu, hcast⟩ := (written_of_reference hreference).1 hv
    exact .reference hfrole hd hu (htype ▸ hcast)

/-- What the columns that an insert lists and those that an update sets have in common. -/
structure Heap.SameColumns (S : Schema) (h : Heap) (i : InstanceId) (m : Metadata) (id : Value)
    (inserted updated : List ColumnValue) : Prop where
  /-- Apart from the identifier's they are the same columns, with the same values. -/
  same : (inserted.filter fun c => c.column != m.identifier.column).Perm updated
  /-- They are the columns of the fields other than the identifier, with what is to be written. -/
  due : ∃ fields, fields.Perm m.nonIdFields ∧
    List.Forall₂ (fun f c => c.column = f.column ∧ h.Due S i f c.value) fields updated
  /-- No column is listed twice, not even in other letters. -/
  inserted_nodup : ((inserted.map ColumnValue.column).map Text.fold).Nodup
  updated_nodup : ((updated.map ColumnValue.column).map Text.fold).Nodup
  identifier_updated : m.identifier.column ∉ updated.map ColumnValue.column
  identifier_inserted : m.identifier.column ∈ inserted.map ColumnValue.column ↔ id ≠ .null

namespace Heap

variable {fields : List PersistentField} {columns : List ColumnValue}

/-- The columns of some fields, with what is written for each. -/
def Lists (S : Schema) (h : Heap) (i : InstanceId) (fields : List PersistentField)
    (columns : List ColumnValue) : Prop :=
  List.Forall₂ (fun f c => c.column = f.column ∧ h.written S i f = .ok c.value) fields columns

theorem Lists.columns_eq (hc : h.Lists S i fields columns) :
    columns.map ColumnValue.column = fields.map PersistentField.column :=
  (map_eq_map_of_forall₂ (hc.imp fun _ _ h => h.1.symm)).symm

/-- Only one value is written for a field. -/
theorem Lists.perm {fields' : List PersistentField} {columns' : List ColumnValue}
    (hc : h.Lists S i fields columns) (hc' : h.Lists S i fields' columns') (hperm : fields.Perm fields') :
    columns.Perm columns' := by
  refine List.rel_perm_imp ?_ hc hc' hperm
  rintro f ⟨column, v⟩ ⟨column', v'⟩ ⟨hcolumn, hv⟩ ⟨hcolumn', hv'⟩
  rw [ColumnValue.mk.injEq]
  exact ⟨hcolumn.trans hcolumn'.symm, Except.ok.inj (hv.symm.trans hv')⟩

/-- To leave out a column is to leave out the field that it belongs to. -/
theorem Lists.filter (hc : h.Lists S i fields columns) (column : String) :
    h.Lists S i (fields.filter fun f => f.column != column)
      (columns.filter fun c => c.column != column) := by
  refine List.rel_filter ?_ hc
  rintro f c ⟨hcolumn, -⟩
  simp only [hcolumn]

/-- The values of an insert, each with its column. -/
theorem exists_lists {values : List Value}
    (hvalues : List.Forall₂ (fun f v => h.written S i f = .ok v) fields values) :
    ∃ columns, h.Lists S i fields columns ∧ columns.map ColumnValue.value = values := by
  have hone : ∀ f ∈ fields, ∀ v, h.written S i f = .ok v →
      ∃ c : ColumnValue, (c.column = f.column ∧ h.written S i f = .ok c.value) ∧ c.value = v :=
    fun f _ v hv => ⟨⟨f.column, v⟩, ⟨rfl, hv⟩, rfl⟩
  obtain ⟨columns, hcolumns, heq⟩ := exists_forall₂ hvalues hone
  exact ⟨columns, hcolumns, (map_eq_map_of_forall₂ heq).trans (List.map_id _)⟩

theorem sameColumns_of_lists {inserted updated : List ColumnValue}
    (hm : S.metadata (h.typeOf i) = .ok m) (hi : h.Lists S i (Gateway.insertFields m id) inserted)
    (hperm : fields.Perm m.nonIdFields) (hu : h.Lists S i fields updated) :
    h.SameColumns S i m id inserted updated := by
  have hs := Mappings.sound_of_resolve hm
  have hnodup := Mappings.nodup_fold_of_resolve hm
  refine ⟨?same, ⟨fields, hperm, ?due⟩, ?inserted_nodup, ?updated_nodup, ?updated, ?inserted⟩
  case same =>
    have hfiltered := hi.filter m.identifier.column
    rw [Gateway.insertFields_filter hs] at hfiltered
    exact hfiltered.perm hu hperm.symm
  case due =>
    refine forall₂_imp_of_mem hu fun f hf c hc => ⟨hc.1, ?_⟩
    exact due_of_written hm (hperm.mem_iff.1 hf) hc.2
  case inserted_nodup =>
    rw [hi.columns_eq]
    exact ((Gateway.insertFields_sublist.map _).map _).nodup hnodup
  case updated_nodup =>
    rw [hu.columns_eq, ((hperm.map _).map _).nodup_iff]
    exact ((m.nonIdFields_sublist.map _).map _).nodup hnodup
  case updated =>
    rw [hu.columns_eq, (hperm.map _).mem_iff, hs.nonIdFields_eq_filter]
    simp
  case inserted =>
    rw [hi.columns_eq]
    exact Gateway.identifier_mem_insertFields_iff hs

end Heap

/-! ## The two writes -/

section Writes

variable {δ : Type} {w : Work (Recorded δ)} {g : Gateway}

namespace Session

/-- A search for changes finds that an instance has changed. -/
def FindsDirty (S : Schema) (w : Work (Recorded δ)) (k : EntityKey) (i : InstanceId) : Prop :=
  ∃ dirty v, (dirtyEntities S).perform w = (.ok dirty, v) ∧ (k, i) ∈ dirty

/-- What is scheduled for an instance that was found to have changed. -/
theorem scheduled_of_findsDirty {k : EntityKey} (hdirty : FindsDirty S w k i) {n : Nat}
    {v : Work (Recorded δ)} (hv : (scheduleUpdates S).perform w = (.ok n, v)) :
    ∃ columns, updateColumns S w.site.heap i = .ok columns ∧
      .update w.session.gateway k columns ∈ v.session.queue.pending := by
  obtain ⟨dirty, u, hu, hmem⟩ := hdirty
  obtain ⟨_, _, -, -, rfl⟩ := dirtyEntities_ok hu
  rw [scheduleUpdates, Act.perform_bind_of_ok hu] at hv
  obtain ⟨_, u, hu, hv⟩ := Act.perform_bind_ok.1 hv
  obtain ⟨updates, hupdates, rfl⟩ := enqueueUpdates_ok hu
  cases hv
  obtain ⟨a, ha, columns, hcolumns, rfl⟩ := exists_mem_zip_of_forall₂ hupdates hmem
  exact ⟨columns, hcolumns, List.mem_append_right _ (List.of_mem_zip ha).2⟩

end Session

variable [Database δ]

namespace Gateway

variable {s : Site (Recorded δ)}

/-- An insert that cannot be put together is not sent. -/
theorem save_of_insertion_error {e : Error} (he : insertion S s.heap i = .error e) :
    (g.save S i).perform s = (.error e, s) := by
  rcases hsave : (g.save S i).perform s with ⟨r, t⟩
  cases saving_of_save hsave with
  | unsent he' => rw [Except.error.inj (he'.symm.trans he)]
  | sent hn => cases hn.symm.trans he

/-- An insert that can be put together is sent, whatever comes of it. -/
theorem save_of_insertion_ok {n : Insertion} (hn : insertion S s.heap i = .ok n) : ∃ answer,
    ((g.save S i).perform s).2.outside.exchanges =
      s.outside.exchanges ++ [.insert g.connection n.sql n.values answer] := by
  rcases hsave : (g.save S i).perform s with ⟨r, t⟩
  cases saving_of_save hsave with
  | unsent he => cases he.symm.trans hn
  | @sent n' outside answer r t hn' _ hsettled =>
    cases hn.symm.trans hn'
    exact ⟨answer, congrArg Recorded.exchanges hsettled.outside⟩

end Gateway

namespace Session

/-- How the insert of an instance and the updates that a session schedules for it go together. -/
inductive WritesAgree (S : Schema) (g : Gateway) (w : Work (Recorded δ)) (i : InstanceId) (m : Metadata)
    (id : Value) : Prop
  /-- Neither can be put together: no statement is sent, and a search for changes that comes upon the
  instance fails. -/
  | neither {e e' : Error} (insert : (g.save S i).perform w.site = (.error e, w.site))
      (update : updateColumns S w.site.heap i = .error e')
      (schedule : ∀ k, FindsDirty S w k i → ((scheduleUpdates S).perform w).1.isOk = false)
  /-- Both can be put together: one insert is sent, and the updates that are scheduled set the same
  columns. -/
  | both {inserted updated : List ColumnValue} {answer : Except Error InsertResult}
      (insert : ((g.save S i).perform w.site).2.outside.exchanges = w.site.outside.exchanges ++
        [.insert g.connection
          (Statement.insert m.table.name (inserted.map ColumnValue.column)).render
          (inserted.map ColumnValue.value) answer])
      (update : updateColumns S w.site.heap i = .ok updated)
      (schedule : ∀ k, FindsDirty S w k i → ∀ n v, (scheduleUpdates S).perform w = (.ok n, v) →
        .update w.session.gateway k updated ∈ v.session.queue.pending)
      (same : w.site.heap.SameColumns S i m id inserted updated)

/-- **Inserts and updates write the same columns.** In every state of an instance of a type that resolves, if
its identifier can be read and cast, the insert and the scheduled updates can be put together both or not
at all; and if they can, they write the same values to the same columns other than the identifier's, which
is never updated and is inserted exactly if the identifier is not NULL. -/
theorem writes_agree (g : Gateway) (hm : S.metadata (w.site.heap.typeOf i) = .ok m)
    (hid : w.site.heap.id S i = .ok id) : WritesAgree S g w i m id := by
  by_cases hall : ∀ f ∈ m.nonIdFields, ∃ v, w.site.heap.written S i f = .ok v
  · obtain ⟨⟨m', id', values⟩, hn⟩ := (Gateway.exists_insertion_iff hm hid).2 hall
    obtain ⟨hm', hid', hvalues⟩ := Gateway.insertion_eq_ok.1 hn
    obtain rfl : m = m' := Except.ok.inj (hm.symm.trans hm')
    obtain rfl : id = id' := Except.ok.inj (hid.symm.trans hid')
    obtain ⟨inserted, hinserted, rfl⟩ := Heap.exists_lists (Gateway.parameters_eq_ok.1 hvalues)
    obtain ⟨answer, hsent⟩ := Gateway.save_of_insertion_ok (g := g) hn
    obtain ⟨updated, hupdated⟩ := (exists_updateColumns_iff hm).2 hall
    obtain ⟨m', fields, hm', hperm, hfields⟩ := updateColumns_ok hupdated
    cases hm.symm.trans hm'
    rw [Gateway.Insertion.sql, Gateway.Insertion.columns, ← hinserted.columns_eq] at hsent
    refine .both hsent hupdated (fun k hk n v hv => ?_)
      (Heap.sameColumns_of_lists hm hinserted hperm hfields)
    obtain ⟨columns, hcolumns, hmem⟩ := scheduled_of_findsDirty hk hv
    rwa [← Except.ok.inj (hupdated.symm.trans hcolumns)] at hmem
  · have hupdate : ¬ ∃ columns, updateColumns S w.site.heap i = .ok columns :=
      mt (exists_updateColumns_iff hm).1 hall
    obtain ⟨e, he⟩ := exists_error_of_not_ok (mt (Gateway.exists_insertion_iff hm hid).1 hall)
    obtain ⟨e', he'⟩ := exists_error_of_not_ok hupdate
    refine .neither (Gateway.save_of_insertion_error he) he' fun k hk => ?_
    rcases hv : (scheduleUpdates S).perform w with ⟨r, v⟩
    cases r with
    | error => rfl
    | ok n =>
      obtain ⟨columns, hcolumns, -⟩ := scheduled_of_findsDirty hk hv
      exact absurd ⟨columns, hcolumns⟩ hupdate

end Session

end Writes

/-! ### Letters -/

namespace Letters

/-- People are known by a decimal. -/
def people : Declaration :=
  { entity := "Person", marked := true, table := none, constructionFault := none, bindable := true
    fields := [⟨{ Field.simple "tag" .decimal with isId := true }, .anyValue⟩] }

/-- A letter has a recipient, a number and a subject, in this order. -/
def letters : Declaration :=
  { entity := "Letter", marked := true, table := none, constructionFault := none, bindable := true
    fields :=
      [⟨{ Field.simple "recipient" .text with
          association := some ⟨.manyToOne, "Person", none, .list, none⟩ },
        .container (.reference "Person" .empty) true⟩,
       ⟨{ Field.simple "number" .bigInt with isId := true }, .anyValue⟩,
       ⟨Field.simple "subject" .text, .anyValue⟩] }

def schema : Schema := Declaration.schema [letters, people]

/-- A letter to somebody. -/
def letter (number : Value) (recipient : Reference) : Record :=
  ⟨[("number", number), ("subject", .text "Hello")], [("recipient", .reference "Person" recipient)]⟩

/-- Of three letters the first has a number, the second has none, and the recipient of the third is
nowhere. -/
def desk : Work (Recorded Rehearsal.Scene) :=
  let due := .unloaded (.int 3) none (.outside 0)
  let heap := (Heap.empty.add "Letter" (letter (.bigInt 5) due)).2
  let heap := (heap.add "Letter" (letter .null due)).2
  let heap := (heap.add "Letter" (letter (.bigInt 6) (.loaded 9))).2
  let scene := { Rehearsal.Scene.empty with connections := #[.scripted (.start "post")] }
  { site := { heap, outside := ⟨scene, []⟩, log := [] }
    session := .start ⟨0, false⟩ (.session 0) }

/-- The values that are sent to save a letter. -/
def sent (i : InstanceId) : List (List Value) :=
  (((Gateway.save ⟨0, false⟩ schema i).perform desk.site).2.outside.exchanges).map fun
    | .query _ _ values _ | .execute _ _ values _ | .insert _ _ values _ => values

/-- The columns that an update of a letter sets. -/
def updated (i : InstanceId) : Option (List (String × Value)) :=
  (Session.updateColumns schema desk.site.heap i).toOption.map fun columns =>
    columns.map fun c => (c.column, c.value)

theorem writes_agree_desk : ∃ m, schema.metadata "Letter" = .ok m ∧
    (Session.WritesAgree schema ⟨0, false⟩ desk 0 m (.bigInt 5) ∧
      sent 0 = [[.decimal "3", .bigInt 5, .text "Hello"]] ∧
      updated 0 = some [("subject", .text "Hello"), ("recipient_id", .decimal "3")]) ∧
    (Session.WritesAgree schema ⟨0, false⟩ desk 1 m .null ∧
      sent 1 = [[.decimal "3", .text "Hello"]]) ∧
    Session.WritesAgree schema ⟨0, false⟩ desk 2 m (.bigInt 6) ∧ sent 2 = [] ∧ updated 2 = none := by
  obtain ⟨m, hm⟩ := exists_of_isOk (show (schema.metadata "Letter").isOk = true by decide +kernel)
  have hid (i : InstanceId) {v : Value} (hv : (desk.site.heap.id schema i).toOption = some v) :
      desk.site.heap.id schema i = .ok v := ok_of_toOption hv
  refine ⟨m, hm, ⟨Session.writes_agree _ hm (hid 0 ?_), ?_, ?_⟩,
    ⟨Session.writes_agree _ hm (hid 1 ?_), ?_⟩, Session.writes_agree _ hm (hid 2 ?_), ?_, ?_⟩
  all_goals decide +kernel

end Letters

end EntitySession
