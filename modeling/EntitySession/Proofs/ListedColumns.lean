import EntitySession.Proofs.Refusals
import EntitySession.Proofs.SameColumns
import EntitySession.Proofs.Wordings

/-!
# Statements list columns

A selection, an insert and an update have a list of columns, and an empty list is no SQL.  A session says
nothing with an empty list, with one exception: the insert of an instance that has no identifier, for a type
that has no other field.  Its text is `INSERT INTO t () VALUES ()`.

There are three lists, and each is never empty for a reason of its own.  A selection lists all columns, and the
identifier's is among them.  An update lists the columns of the fields other than the identifier; there may be
none, but then nothing is sent.  An insert lists all columns if there is an identifier, and otherwise those of
the other fields, and here nobody looks whether there are any (`Metadata.Sound.insertFields_eq_nil_iff`).  An
insert that has waited in the queue is no exception: its instance had an identifier when it was put there, but
the program may have taken it away since (`Heap.HasAnonymous`).

`Session.listsColumns_of_run` says of every call in a run of a session what it may say and, for the instances
that are made persistent, when it says the exception: exactly then.
-/

set_option autoImplicit false

namespace EntitySession

variable {S : Schema} {h : Heap} {m : Metadata}

/-- Some instance of a type has no identifier. -/
def Heap.HasAnonymous (S : Schema) (h : Heap) (entity : String) : Prop :=
  ∃ i x, h.instances[i]? = some x ∧ x.entity = entity ∧ ∀ v, h.id S i = .ok v → v = .null

/-! ## Lists of columns -/

namespace Statement

/-- The columns that a statement lists.  A deletion has no list. -/
def listed? : Statement → Option (List String)
  | select columns _ _ | selectLinked columns _ _ _ _ _ | insert _ columns | update _ columns _ =>
    some columns
  | delete _ _ => none

/-- What a statement lists are columns of a type, and at least one of them, unless it inserts a row of a type
that has nothing but an identifier, of which some instance has none. -/
structure Lists (S : Schema) (h : Heap) (m : Metadata) (st : Statement) : Prop where
  columns : ∀ columns, st.listed? = some columns → columns ⊆ m.columnNames
  bare : st.listed? = some [] →
    st = .insert m.table.name [] ∧ m.fields = [m.identifier] ∧ h.HasAnonymous S m.entity

theorem Lists.of_ne_nil {st : Statement} {columns : List String} (hst : st.listed? = some columns)
    (hcolumns : columns ⊆ m.columnNames) (hne : columns ≠ []) : st.Lists S h m where
  columns columns' hst' := by
    obtain rfl : columns = columns' := Option.some.inj (hst.symm.trans hst')
    exact hcolumns
  bare hnil := absurd (Option.some.inj (hst.symm.trans hnil)) hne

/-- An update lists the columns of the other fields, if it lists anything. -/
theorem lists_update {columns : List String} (hne : columns ≠ [])
    (hcolumns : columns = (m.simpleFields ++ m.references.map Prod.fst).map PersistentField.column) :
    (update m.table.name columns m.identifier.column).Lists S h m := by
  refine .of_ne_nil rfl (fun c hc => ?_) hne
  rw [hcolumns, List.mem_map] at hc
  obtain ⟨f, hf, rfl⟩ := hc
  exact List.mem_map_of_mem (m.written_subset hf)

theorem lists_delete (table column : String) : (delete table column).Lists S h m where
  columns _ hst := nomatch hst
  bare hst := nomatch hst

theorem render_insert_nil (table : String) :
    (insert table []).render = "INSERT INTO " ++ table ++ " () VALUES ()" := by
  have hcommas : commas [] = "" := rfl
  have hlists : " (" ++ (") VALUES (" ++ ")") = " () VALUES ()" := by decide
  calc (insert table []).render
    _ = "INSERT INTO " ++ table ++ " (" ++ commas [] ++ ") VALUES (" ++ commas [] ++ ")" := rfl
    _ = "INSERT INTO " ++ table ++ " () VALUES ()" := by
      simp only [hcommas, String.append_empty, String.append_assoc, hlists]

end Statement

namespace Metadata

theorem columnNames_ne_nil (m : Metadata) : m.columnNames ≠ [] :=
  List.ne_nil_of_mem (List.mem_map_of_mem m.identifier_mem)

/-- A selection lists all columns. -/
theorem lists_all {st : Statement} (hst : st.listed? = some m.columnNames) : st.Lists S h m :=
  .of_ne_nil hst (List.Subset.refl _) m.columnNames_ne_nil

namespace Sound

/-- Only a type that has nothing but its identifier has no other fields. -/
theorem nonIdFields_eq_nil_iff (hs : m.Sound) : m.nonIdFields = [] ↔ m.fields = [m.identifier] := by
  obtain ⟨before, after, hfields, hothers, -⟩ := hs.exists_append
  rw [hothers, List.append_eq_nil_iff, hfields]
  constructor
  · rintro ⟨rfl, rfl⟩
    rfl
  · intro halone
    have hlength := congrArg List.length halone
    rw [List.length_append, List.length_cons, List.length_singleton] at hlength
    exact ⟨List.length_eq_zero_iff.1 (by omega), List.length_eq_zero_iff.1 (by omega)⟩

/-- There is nothing to be inserted if there are no other fields and the identifier is missing. -/
theorem insertFields_eq_nil_iff (hs : m.Sound) {id : Value} :
    Gateway.insertFields m id = [] ↔ m.fields = [m.identifier] ∧ id = .null := by
  by_cases hn : id = .null
  · rw [hn, Gateway.insertFields_null, hs.nonIdFields_eq_nil_iff, and_iff_left rfl]
  · rw [Gateway.insertFields_of_ne_null hn]
    exact iff_of_false (List.ne_nil_of_mem m.identifier_mem) fun h => hn h.2

/-- An insert lists all columns or those of the other fields, and of these there may be none. -/
theorem lists_insert (hs : m.Sound) {id : Value} (hid : id = .null → h.HasAnonymous S m.entity) :
    (Statement.insert m.table.name
      ((Gateway.insertFields m id).map PersistentField.column)).Lists S h m where
  columns columns hst := by
    cases hst
    exact (Gateway.insertFields_sublist.map _).subset
  bare hnil := by
    have hnone : Gateway.insertFields m id = [] := List.map_eq_nil_iff.1 (Option.some.inj hnil)
    obtain ⟨hfields, hnull⟩ := hs.insertFields_eq_nil_iff.1 hnone
    exact ⟨by rw [hnone]; rfl, hfields, hid hnull⟩

end Sound

end Metadata

/-! ## What a session says -/

/-- What is sent lists columns of a type that resolves. -/
def Utterance.Listing (S : Schema) (h : Heap) (u : Utterance) : Prop :=
  ∀ sql values, u.sent? = some (sql, values) → ∃ (entity : String) (m : Metadata) (st : Statement),
    S.metadata entity = .ok m ∧ st.Lists S h m ∧ sql = st.render ∧ values.length = st.placeholders

theorem Utterance.Listing.of_lists {entity : String} (hm : S.metadata entity = .ok m) {u : Utterance}
    {st : Statement} {values : List Value} (hst : st.Lists S h m)
    (hu : u.sent? = some (st.render, values)) (hlength : values.length = st.placeholders) :
    u.Listing S h := by
  intro sql values' hu'
  obtain ⟨rfl, rfl⟩ := Prod.mk.inj (Option.some.inj (hu.symm.trans hu'))
  exact ⟨entity, m, st, hm, hst, rfl, hlength⟩

namespace Session

variable {δ : Type}

/-- What a session says of its own accord lists columns. -/
theorem allowed_listing (S : Schema) (h : Heap) :
    Allowed S h (Utterance.Listing S h) (fun a => a.Lists S ∧ a.Present h) where
  find c entity m id hm := .of_lists hm (Metadata.lists_all rfl) rfl rfl
  insert g entity i h' m id values hqueued hh' hm hid hvalues := by
    have hlength := (Gateway.parameters_eq_ok.1 hvalues).length_eq
    have hanonymous : id = .null → h.HasAnonymous S m.entity := by
      rintro rfl
      obtain ⟨x, hx, -⟩ := hqueued.2
      refine ⟨i, x, hx, ?_, fun v hv => ?_⟩
      · rw [Mappings.entity_of_resolve hm, hh'.types.typeOf hx, Heap.typeOf_of_some hx]
      -- who has an identifier now has had none but this
      · by_contra hne
        exact hne (Except.ok.inj ((hh'.ids i v hv hne).symm.trans hid))
    exact .of_lists hm ((Mappings.sound_of_resolve hm).lists_insert hanonymous) rfl
      (hlength.symm.trans (List.length_map _).symm)
  update g k columns m hqueued hne hm := by
    have hcolumns : columns.map ColumnValue.column ≠ [] := mt List.map_eq_nil_iff.1 hne
    exact .of_lists hm (Statement.lists_update hcolumns (hqueued.1 m hm)) rfl
      (by simp [Statement.placeholders])
  delete c entity m id hm := .of_lists hm (Statement.lists_delete ..) rfl rfl
  inserts g i id hid := ⟨trivial, Action.present_of_id hid g⟩
  deletes _ _ := ⟨trivial, trivial⟩

/-- So does what it says when it is asked, whatever column it is asked to select by. -/
theorem allowed_listing_call (h : Heap) (c : Call) : c.Allowed S (Utterance.Listing S h) := by
  cases c with
  | ask request =>
    cases request with
    | byKey => trivial
    | byQuery q =>
      intro c m hm
      have hs := Mappings.sound_of_resolve hm
      cases hsource : q.source <;> exact .of_lists hm (Metadata.lists_all rfl) rfl rfl
  | close => exact fun _ _ _ => nofun
  | _ => trivial

end Session

/-! ### Making persistent -/

section Persisting

variable {δ : Type}

/-- Who may say nothing has said nothing. -/
theorem Site.Says.said_eq {s t : Site (Overheard δ)} (h : Says (fun _ => False) s t) :
    t.outside.said = s.outside.said := by
  obtain ⟨us, hus, hall⟩ := h
  rw [hus, List.eq_nil_iff_forall_not_mem.2 hall, List.append_nil]

variable [Database δ]

/-- An insert that can be put together is said, and nothing after it. -/
theorem Gateway.save_said {g : Gateway} {i : InstanceId} {s : Site (Overheard δ)} {n : Insertion}
    (hn : insertion S s.heap i = .ok n) : ((g.save S i).perform s).2.outside.said =
      s.outside.said ++ [.insert g.connection n.sql n.values] := by
  have hlook : (Site.look fun h => insertion S h i).perform s = (.ok n, s) := Prod.ext hn rfl
  rw [save_eq, Act.perform_bind_of_ok hlook]
  refine Act.after_bind (P := fun t : Site (Overheard δ) => t.outside.said = s.outside.said ++ _) ?_ ?_
  · intro result t ht
    obtain ⟨-, rfl⟩ := perform_send_ok ht
    exact (Site.Says.of_via (afterInsert_utters ..)).said_eq
  · intro e t ht
    rw [perform_send, Prod.mk.injEq] at ht
    rw [← ht.2]
    rfl

namespace Session

variable {w : Work δ} {i : InstanceId}

/-- To make an instance persistent that has no identifier is to save it, as far as the site is concerned. -/
theorem persist_site_of_null (hopen : w.session.isOpen = true) (hid : w.site.heap.id S i = .ok .null) :
    ((persist S i).perform w).2.site = ((w.session.gateway.save S i).perform w.site).2 := by
  have hlook : (Work.look fun _ h => h.id S i).perform w = (.ok .null, w) := Work.perform_look_of_ok hid
  have hself : (Work.look fun s _ => .ok s).perform w = (.ok w.session, w) := rfl
  rw [persist, Act.perform_bind_of_ok (ensureOpen_open hopen), Act.perform_bind_of_ok hlook,
    Act.perform_bind_of_ok hself, Value.isNull, if_pos rfl]
  refine Work.after_onSite_bind (P := fun v => v.site = _) (fun _ t ht => ?_) fun e t ht => by rw [ht]
  rw [ht]
  rcases hput : (Work.modifyContext fun h c => c.put S h i).perform { w with site := t } with ⟨r, v⟩
  cases r with
  | ok =>
    obtain ⟨c, -, rfl⟩ := Work.perform_modifyContext_ok.1 hput
    rfl
  | error => rw [(Work.of_modifyContext_error hput).2]

/-- A closed session saves nothing, and no session saves an instance that has an identifier or shows none. -/
theorem persist_site_eq (h : w.session.isOpen = false ∨ w.site.heap.id S i ≠ .ok .null) :
    ((persist S i).perform w).2.site = w.site := by
  rcases h with hclosed | hid
  · rw [persist, Act.perform_bind_of_error (ensureOpen_closed hclosed)]
  · rcases hpersist : (persist S i).perform w with ⟨r, v⟩
    cases r with
    | ok =>
      cases (persist_ok hpersist).2 with
      | generated hnull => exact absurd hnull hid
      | known | waiting => rfl
    | error =>
      cases persist_rejects hpersist with
      | generated hnull => exact absurd hnull hid
      | refused | waiting => rfl

/-! ### Runs -/

/-- What a call of a session says, and when it is the insert with an empty list. -/
structure ListsColumns (S : Schema) (d : Moment (Overheard δ)) : Prop where
  /-- Everything that is said lists columns, if no instance without an identifier forbids it. -/
  listing : Site.Says (Utterance.Listing S d.before.site.heap) d.before.site d.after.site
  /-- An instance that has an identifier, or fields besides it, is made persistent without an empty list. -/
  filled : ∀ i r m, d.event = .call (.persist i) r →
    S.metadata (d.before.site.heap.typeOf i) = .ok m →
      m.fields ≠ [m.identifier] ∨ d.before.site.heap.id S i ≠ .ok .null →
        Site.Says (fun u => ∃ columns values, columns ≠ [] ∧
          u = .insert d.before.session.gateway.connection
            (Statement.insert m.table.name columns).render values) d.before.site d.after.site
  /-- For an instance that has neither, an open session says one insert, and its list is empty. -/
  bare : ∀ i r m, d.event = .call (.persist i) r → d.before.session.isOpen = true →
    S.metadata (d.before.site.heap.typeOf i) = .ok m → m.fields = [m.identifier] →
      d.before.site.heap.id S i = .ok .null →
        d.after.site.outside.said = d.before.site.outside.said ++
          [.insert d.before.session.gateway.connection
            ("INSERT INTO " ++ m.table.name ++ " () VALUES ()") []]

variable {x y : Work (Overheard δ)}

theorem persist_filled {i : InstanceId} (hm : S.metadata (x.site.heap.typeOf i) = .ok m)
    (hfilled : m.fields ≠ [m.identifier] ∨ x.site.heap.id S i ≠ .ok .null) :
    Site.Says (fun u => ∃ columns values, columns ≠ [] ∧ u = .insert x.session.gateway.connection
      (Statement.insert m.table.name columns).render values)
      x.site ((persist S i).perform x).2.site := by
  by_cases hsaved : x.session.isOpen = true ∧ x.site.heap.id S i = .ok .null
  · obtain ⟨hopen, hid⟩ := hsaved
    have hother : Gateway.insertFields m .null ≠ [] := by
      refine fun hnil => hfilled.elim (fun hfields => hfields ?_) (· hid)
      exact ((Mappings.sound_of_resolve hm).insertFields_eq_nil_iff.1 hnil).1
    rw [persist_site_of_null hopen hid]
    refine .of_via (Gateway.save_utters _ i _ fun m' id values hm' hid' _ => ?_)
    obtain rfl : m = m' := Except.ok.inj (hm.symm.trans hm')
    obtain rfl : .null = id := Except.ok.inj (hid.symm.trans hid')
    exact ⟨_, _, mt List.map_eq_nil_iff.1 hother, rfl⟩
  · have hsite : ((persist S i).perform x).2.site = x.site :=
      persist_site_eq (by rwa [not_and_or, Bool.not_eq_true] at hsaved)
    exact .of_said (by rw [hsite])

theorem persist_bare {i : InstanceId} (hopen : x.session.isOpen = true)
    (hm : S.metadata (x.site.heap.typeOf i) = .ok m) (hfields : m.fields = [m.identifier])
    (hid : x.site.heap.id S i = .ok .null) :
    ((persist S i).perform x).2.site.outside.said = x.site.outside.said ++
      [.insert x.session.gateway.connection ("INSERT INTO " ++ m.table.name ++ " () VALUES ()") []] := by
  have hother : Gateway.insertFields m .null = [] :=
    (Mappings.sound_of_resolve hm).insertFields_eq_nil_iff.2 ⟨hfields, rfl⟩
  have hn : Gateway.insertion S x.site.heap i = .ok ⟨m, .null, []⟩ := by
    refine Gateway.insertion_eq_ok.2 ⟨hm, hid, ?_⟩
    rw [Gateway.Insertion.fields, hother]
    rfl
  rw [persist_site_of_null hopen hid, Gateway.save_said hn, Gateway.Insertion.sql,
    Gateway.Insertion.columns, Gateway.Insertion.fields, hother, List.map_nil,
    Statement.render_insert_nil]

variable [Callbacks δ]

/-- Whatever a session that is fit is called for, it lists columns. -/
theorem Fit.listsColumns (hx : Fit S x) {c : Call} {r : Except Error (List InstanceId)}
    (h : (c.act S).perform x = (r, y)) : ListsColumns S ⟨x, .call c r, y⟩ where
  listing := (hx.speaks (allowed_listing S _) (allowed_listing_call _ c) h).2
  filled i r m he hm hfilled := by
    cases he
    rw [Call.act, Act.perform_map, Prod.mk.injEq] at h
    obtain ⟨-, rfl⟩ := h
    exact persist_filled hm hfilled
  bare i r m he hopen hm hfields hid := by
    cases he
    rw [Call.act, Act.perform_map, Prod.mk.injEq] at h
    obtain ⟨-, rfl⟩ := h
    exact persist_bare hopen hm hfields hid

/-- A session stays fit. -/
theorem Fit.step {e : Event} (hx : Fit S x) (h : Step S x e y) : Fit S y := by
  cases h with
  | call c h => exact (hx.speaks (allowed_listing S _) (allowed_listing_call _ c) h).1
  | elsewhere choices held transaction htypes =>
    exact ⟨hx.sound.step (.elsewhere choices held transaction htypes), hx.lists⟩

/-- **Statements list columns.**  In every run of a session, each statement that a call sends lists at least
one column of its type, but for the insert of an instance that has no identifier and no other field; and when
such an instance is made persistent, that insert is sent. -/
theorem listsColumns_of_run {site : Site (Overheard δ)} {g : Gateway} {loader : Loader}
    {trace : List (Moment (Overheard δ))} (hrun : Run (Step S) ⟨site, .start g loader⟩ trace x) :
    ∀ d ∈ trace, d.event ≠ .elsewhere → ListsColumns S d := by
  intro d hd hcalled
  obtain ⟨first, last, rfl⟩ := List.append_of_mem hd
  obtain ⟨hfirst, hstep, -⟩ := hrun.split
  have hfit : Fit S d.before :=
    hfirst.invariant (fun _ _ hstep hx => hx.step hstep) (fit_start S site g loader)
  obtain ⟨before, event, after⟩ := d
  cases event with
  | call c r =>
    cases hstep with
    | call _ h => exact hfit.listsColumns h
  | elsewhere => exact absurd rfl hcalled

end Session

end Persisting

/-! ### A cloakroom -/

namespace Cloakroom

/-- A tag is nothing but a number. -/
def tags : Declaration :=
  { entity := "Tag", marked := true, table := "tags", constructionFault := none, bindable := true
    fields := [⟨{ Field.simple "number" .bigInt with isId := true }, .anyValue⟩] }

/-- A coat may say whose it is. -/
def coats : Declaration :=
  { entity := "Coat", marked := true, table := "coats", constructionFault := none, bindable := true
    fields := [⟨{ Field.simple "peg" .bigInt with isId := true }, .anyValue⟩,
      ⟨Field.simple "owner" .text, .anyValue⟩] }

def schema : Schema := Declaration.schema [tags, coats]

/-- A session, and three instances: a coat without a peg, a tag with a number and a tag without. -/
def cloakroom : Work (Overheard Rehearsal.Scene) :=
  let connection := { Rehearsal.ScriptedConnection.start "cloakroom" with keys := [.int 1, .int 2] }
  let scene := { Rehearsal.Scene.empty with connections := #[.scripted connection] }
  { site :=
      { heap := ⟨#[⟨"Coat", ⟨[("peg", .null), ("owner", .text "Ann")], []⟩⟩,
          ⟨"Tag", ⟨[("number", .bigInt 7)], []⟩⟩, ⟨"Tag", ⟨[("number", .null)], []⟩⟩], #[]⟩
        outside := ⟨scene, []⟩
        log := [] }
    session := .start ⟨0, false⟩ (.session 0) }

/-- A call of the session. -/
def called (c : Session.Call) (w : Work (Overheard Rehearsal.Scene)) :
    Session.Moment (Overheard Rehearsal.Scene) :=
  ⟨w, .call c ((c.act schema).perform w).1, ((c.act schema).perform w).2⟩

/-- The coat is taken, the first tag is noted, all is flushed, and the second tag is noted. -/
def evening : List (Session.Moment (Overheard Rehearsal.Scene)) :=
  let taken := called (.persist 0) cloakroom
  let noted := called (.persist 1) taken.after
  let flushed := called .flush noted.after
  [taken, noted, flushed, called (.persist 2) flushed.after]

/-- The tag without a number is made persistent by an insert with nothing in it. -/
theorem nothing_listed : (schema.metadata "Tag").isOk = true ∧ cloakroom.session.isOpen = true ∧
    (called (.persist 2) cloakroom).after.site.outside.said.filterMap Utterance.sent? =
      [((Statement.insert "tags" []).render, [])] ∧
    (Statement.insert "tags" []).render = "INSERT INTO tags () VALUES ()" := by
  decide +kernel

/-- Of three inserts the first two list a column and the last does not. -/
theorem listsColumns_evening : (∀ d ∈ evening, Session.ListsColumns schema d) ∧
    (evening.map fun d => d.after.site.outside.said.filterMap Utterance.sent?).getLast? =
      some [("INSERT INTO coats (owner) VALUES (?)", [.text "Ann"]),
        ("INSERT INTO tags (number) VALUES (?)", [.bigInt 7]),
        ("INSERT INTO tags () VALUES ()", [])] := by
  refine ⟨fun d hd => ?_, by decide +kernel⟩
  obtain ⟨x, hrun⟩ : ∃ x, Run (Session.Step schema) cloakroom evening x :=
    ⟨_, .cons (.call _ rfl) (.cons (.call _ rfl) (.cons (.call _ rfl) (.single (.call _ rfl))))⟩
  refine Session.listsColumns_of_run hrun d hd fun helsewhere => ?_
  simp only [evening, List.mem_cons, List.not_mem_nil, or_false] at hd
  rcases hd with rfl | rfl | rfl | rfl <;> cases helsewhere

end Cloakroom

end EntitySession
