import EntitySession.Proofs.Counterparts
import EntitySession.Proofs.Requests
import EntitySession.Proofs.Templates
import EntitySession.Proofs.Worlds

/-!
# What connections hear

Whatever the mappings say, and whatever values the instances have, a connection hears nothing from a
session but statements that are composed of identifiers, with the values beside them and a question mark
for each (`Utterance.Worded`).

Most of this is known as soon as it is known who speaks.  What a session says to find, to insert, to update
and to delete is composed of the metadata of one type (`Session.allowed_worded`), the columns of an update
too, which waits in the queue between being made and being said (`Action.Lists`).  The selection of the
targets of an association is another matter.  The query with which a session is asked could have any text
for a column, and is sent as it is; so it matters where it comes from.  It comes from a row
(`Request.Declared`), as long as the program makes no association values of its own that ask sessions, and
asks for nothing else (`World.PassesOn`).  The invariant is `World.Fit`, and the result
`World.worded_of_run`.
-/

set_option autoImplicit false

namespace EntitySession

variable {δ : Type} {S : Schema}

/-! ## Statements with their values -/

/-- The statement that an utterance sends, with the values that go with it. -/
def Utterance.sent? : Utterance → Option (String × List Value)
  | query _ sql values | execute _ sql values | insert _ sql values => some (sql, values)
  | _ => none

/-- What is sent was composed for the mappings, all names in it are identifiers, and it has a question mark
for each value. -/
def Utterance.Worded (ms : Mappings) (u : Utterance) : Prop :=
  ∀ sql values, u.sent? = some (sql, values) → ∃ st : Statement, st.Composed ms ∧ sql = st.render ∧
    (∀ n ∈ st.names, IsName n) ∧ marks sql = values.length

theorem Utterance.Worded.of_composed {ms : Mappings} {u : Utterance} {st : Statement}
    {values : List Value} (hst : st.Composed ms) (hu : u.sent? = some (st.render, values))
    (hlength : st.placeholders = values.length) : u.Worded ms := by
  intro sql values' hu'
  rw [hu, Option.some.injEq, Prod.mk.injEq] at hu'
  obtain ⟨rfl, rfl⟩ := hu'
  exact ⟨st, hst, rfl, hst.isName, (Statement.marks_render hst.isName).trans hlength⟩

/-! ## What a session says -/

/-- An update lists the columns of its type. -/
def Action.Lists (S : Schema) : Action → Prop
  | .update _ k columns => ∀ m, S.metadata k.entity = .ok m → columns.map ColumnValue.column =
    (m.simpleFields ++ m.references.map Prod.fst).map PersistentField.column
  | _ => True

theorem Action.lists_of_updateColumns {h : Heap} {i : InstanceId} {k : EntityKey}
    (hi : h.typeOf i = k.entity) {columns : List ColumnValue}
    (hcolumns : Session.updateColumns S h i = .ok columns) (g : Gateway) :
    (Action.update g k columns).Lists S := by
  obtain ⟨cs, hcs, hcolumns⟩ := bind_eq_ok.1 hcolumns
  obtain ⟨rs, hrs, hcolumns⟩ := bind_eq_ok.1 hcolumns
  cases hcolumns
  obtain ⟨m, hm, hcs, hrs⟩ := Context.isBaseline_of_values hcs hrs
  intro m' hm'
  rw [← hi, hm, Except.ok.injEq] at hm'
  subst hm'
  rw [List.map_append, List.map_append, hcs, List.map_map, List.map_map]
  exact congrArg _ hrs

/-- An insert is that of an instance of its type. -/
def Action.Present (h : Heap) : Action → Prop
  | .insert _ entity i => ∃ x, h.instances[i]? = some x ∧ x.entity = entity
  | _ => True

theorem Action.Belongs.present {g : Gateway} {h : Heap} {a : Action} (ha : a.Belongs g h) :
    a.Present h := by
  cases a with
  | insert => exact ha.2
  | _ => trivial

theorem Action.present_of_id {h : Heap} {i : InstanceId} {id : Value} (hid : h.id S i = .ok id)
    (g : Gateway) : (Action.insert g (h.typeOf i) i).Present h := by
  obtain ⟨x, hx⟩ := Heap.exists_of_id hid
  exact ⟨x, hx, (Heap.typeOf_of_some hx).symm⟩

/-- An insert lists the columns of its type, with that of the identifier or without it. -/
theorem Statement.composed_insert {ms : Mappings} {entity : String} {m : Metadata}
    (hm : ms.resolve entity = .ok m) (id : Value) : Composed ms
      (.insert m.table.name ((Gateway.insertFields m id).map PersistentField.column)) := by
  rw [Gateway.insertFields]
  split
  · exact .insertedAnew hm
  · exact .inserted hm

namespace Session

/-- What a session says of its own accord is composed for the mappings. -/
theorem allowed_worded (S : Schema) (h : Heap) :
    Allowed S h (Utterance.Worded S.mappings) (fun a => a.Lists S ∧ a.Present h) where
  find c entity m id hm := .of_composed (.found hm) rfl rfl
  insert g entity i h' m id values _ _ hm _ hvalues := by
    have hlength := (Gateway.parameters_eq_ok.1 hvalues).length_eq
    exact .of_composed (Statement.composed_insert hm id) rfl ((List.length_map _).trans hlength)
  update g k columns m hqueued _ hm := by
    have hlists := hqueued.1 m hm
    rw [hlists]
    refine .of_composed (.updated hm) rfl ?_
    rw [← hlists]
    simp [Statement.placeholders]
  delete c entity m id hm := .of_composed (.deleted hm) rfl rfl
  inserts g i id hid := ⟨trivial, Action.present_of_id hid g⟩
  deletes _ _ := ⟨trivial, trivial⟩

/-- What is said for a request that is declared is composed for the mappings. -/
theorem allowed_of_declared {q : Request} (hq : q.Declared S.mappings) :
    q.Allowed S (Utterance.Worded S.mappings) := by
  cases hq with
  | byKey => trivial
  | @byQuery _ m a hm ha ownerId =>
    intro c m' hm'
    refine .of_composed (.associated hm ha hm') rfl ?_
    cases a.source <;> rfl

/-- A session in order, whose queued updates list the columns of their types. -/
structure Fit (S : Schema) (x : Work δ) : Prop where
  sound : Sound S x
  lists : ∀ a ∈ x.session.queue.pending, a.Lists S

theorem fit_start (S : Schema) (site : Site δ) (g : Gateway) (loader : Loader) :
    Fit S ⟨site, .start g loader⟩ :=
  ⟨sound_start S site g loader, List.forall_mem_nil _⟩

theorem Fit.of_keepsTypes {x : Work δ} (hx : Fit S x) {site : Site δ}
    (htypes : x.site.heap.KeepsTypes site.heap) : Fit S { x with site := site } :=
  ⟨hx.sound.of_keepsTypes htypes, hx.lists⟩

section Calls

variable [Database δ] [Callbacks δ] {x y : Work (Overheard δ)} {c : Call}
  {r : Except Error (List InstanceId)}

/-- A session stays fit whatever it is called for, and what it says is of a kind if what it says of its own
accord is. -/
theorem Fit.speaks {P : Utterance → Prop}
    (hA : Allowed S x.site.heap P fun a => a.Lists S ∧ a.Present x.site.heap) (hx : Fit S x)
    (hc : c.Allowed S P) (h : (c.act S).perform x = (r, y)) : Fit S y ∧ Site.Says P x.site y.site := by
  have hqueue : ∀ a ∈ x.session.queue.pending, a.Lists S ∧ a.Present x.site.heap :=
    fun a ha => ⟨hx.lists a ha, (hx.sound.queued a ha).present⟩
  have hutters := act_utters hA hc hqueue fun e he columns hcolumns =>
    ⟨Action.lists_of_updateColumns (hx.sound.context.entry e he).typeOf hcolumns _, trivial⟩
  rw [h] at hutters
  have hlists : ∀ a ∈ y.session.queue.pending, a.Lists S :=
    fun a ha => (hutters.queued hqueue a ha).1
  exact ⟨⟨hx.sound.step (.call c h), hlists⟩, hutters.said⟩

/-- Whatever a session is called for, it says nothing but what is composed for the mappings, if what it is
asked is declared there. -/
theorem Fit.call (hx : Fit S x) (hc : ∀ q, c = .ask q → q.Declared S.mappings)
    (h : (c.act S).perform x = (r, y)) :
    Fit S y ∧ Site.Says (Utterance.Worded S.mappings) x.site y.site := by
  refine hx.speaks (allowed_worded S _) ?_ h
  cases c with
  | ask q => exact allowed_of_declared (hc q rfl)
  | close => exact fun _ _ _ => nofun
  | _ => trivial

end Calls

end Session

/-! ## What a world says -/

namespace World

/-- The program makes no association values that ask sessions for anything new, and has sessions asked for
nothing but what association values ask for. -/
def PassesOn (m : Moment δ) : Prop :=
  match m.event with
  | .called _ (.ask q) _ => m.before.Asks q
  | .loaded c _ => ∀ held q, (Link.collection held c).Asks q → m.before.Asks q
  | .elsewhere => ∀ q, m.after.Asks q → m.before.Asks q
  | _ => True

/-- Nothing waits to be said that was not composed for the mappings, and nothing waits to be asked that is
not declared there. -/
structure Fit (S : Schema) (w : World δ) : Prop where
  sessions : ∀ n x, w.work? n = some x → Session.Fit S x
  asks : ∀ q, w.Asks q → q.Declared S.mappings

theorem fit_start (S : Schema) (outside : δ) : Fit S (start outside) := by
  refine ⟨nofun, fun q hq => ?_⟩
  rcases hq with ⟨i, x, hx, -⟩ | ⟨e, he, -⟩
  · cases hx
  · cases he

/-- Sessions that are left alone stay fit when instances stay what they are. -/
theorem Fit.of_keepsTypes {w v : World δ} (hw : Fit S w) (hsessions : v.sessions = w.sessions)
    (htypes : w.site.heap.KeepsTypes v.site.heap) (hasks : ∀ q, v.Asks q → q.Declared S.mappings) :
    Fit S v := by
  refine ⟨fun n y hy => ?_, hasks⟩
  obtain ⟨hs, hsite⟩ := work?_eq_some.1 hy
  have hx : w.work? n = some ⟨w.site, y.session⟩ := work?_eq_some.2 ⟨hsessions ▸ hs, rfl⟩
  have hy := (hw.sessions n _ hx).of_keepsTypes htypes
  rwa [hsite] at hy

/-- After one of the sessions has done something the others are left with its site. -/
theorem work?_of_install {w : World δ} {m n : Nat} {y z : Work δ}
    (hz : (w.install n y).work? m = some z) :
    z = y ∨ ∃ x, w.work? m = some x ∧ z = { x with site := y.site } := by
  cases hx : w.work? m with
  | none =>
    rw [work?_eq_none, ← install_size n y, ← work?_eq_none, hz] at hx
    cases hx
  | some x =>
    by_cases hmn : m = n
    · subst hmn
      rw [work?_install_self hx, Option.some.injEq] at hz
      exact .inl hz.symm
    · rw [work?_install_ne (Ne.symm hmn) hx, Option.some.injEq] at hz
      exact .inr ⟨x, rfl, hz.symm⟩

section Steps

variable [Database δ] [Callbacks δ] {w v : World δ}

theorem Fit.opened (hw : Fit S w) (connection : ConnectionId) (showSql : Bool) :
    Fit S ((openSession connection showSql).perform w).2 := by
  refine ⟨fun n y hy => ?_, hw.asks⟩
  cases hx : w.work? n with
  | none =>
    have hstep : Step S w .opened _ := .opened connection showSql w
    obtain ⟨g, rfl⟩ := hstep.new hx hy
    exact Session.fit_start ..
  | some x =>
    rw [work?_openSession connection showSql hx, Option.some.injEq] at hy
    exact hy ▸ hw.sessions n x hx

theorem Fit.elsewhere (hw : Fit S w) (h : Step S w .elsewhere v)
    (hasks : ∀ q, v.Asks q → q.Declared S.mappings) : Fit S v := by
  cases h with
  | elsewhere hheap hsize hsessions =>
    refine ⟨fun n y hy => ?_, hasks⟩
    cases hx : w.work? n with
    | none =>
      rw [work?_eq_none, ← hsize, ← work?_eq_none, hy] at hx
      cases hx
    | some x =>
      obtain ⟨hs, hsite⟩ := work?_eq_some.1 hx
      obtain ⟨choices, held, transaction, hs'⟩ := hsessions n _ hs
      have hy' : v.work? n = some ⟨v.site, _⟩ := work?_eq_some.2 ⟨hs', rfl⟩
      rw [hy', Option.some.injEq] at hy
      subst hy
      have hfit := (hw.sessions n x hx).of_keepsTypes (hsite ▸ hheap)
      exact ⟨hfit.sound.step (.elsewhere choices held transaction (.refl _)), hfit.lists⟩

end Steps

variable [Database δ] [Callbacks δ] {w v u : World (Overheard δ)}

/-- A call that asks for nothing but what is declared leaves the world fit, and says only what is composed
for the mappings. -/
theorem Fit.install (hS : S.Discreet) (hw : Fit S w) {n : Nat} {x y : Work (Overheard δ)}
    (hx : w.work? n = some x) {c : Session.Call} (hc : ∀ q, c = .ask q → q.Declared S.mappings)
    {r : Except Error (List InstanceId)} (h : (c.act S).perform x = (r, y)) :
    Fit S (w.install n y) ∧ Site.Says (Utterance.Worded S.mappings) w.site (w.install n y).site := by
  obtain ⟨hy, hutters⟩ := (hw.sessions n x hx).call hc h
  have htypes := (Session.act_change (S := S) c x).keepsKeys.types
  have hasks := fun q => Session.Call.act_asks (q := q) hS c x
  rw [h] at htypes hasks
  have hsite := (work?_eq_some.1 hx).2
  refine ⟨⟨fun m z hz => ?_, fun q hq => ?_⟩, hsite ▸ hutters⟩
  · rcases work?_of_install hz with rfl | ⟨x', hx', rfl⟩
    · exact hy
    · refine (hw.sessions m x' hx').of_keepsTypes ?_
      rwa [← (work?_eq_some.1 hx').2, hsite]
  · rcases hq with hq | hq
    · exact (hasks q hq).elim (fun hq => hw.asks q (.inl (hsite ▸ hq))) id
    · exact hw.asks q (.inr hq)

/-- A supplier that asks for nothing but what is declared leaves the world fit, and says only what is
composed for the mappings. -/
theorem Served.fit (hS : S.Discreet) (hw : Fit S w) {supplier : Supplier}
    (hsupplier : ∀ q, supplier.Asks q → q.Declared S.mappings)
    {r : Except Error (List InstanceId)} (h : Served S w supplier r u) :
    Fit S u ∧ Site.Says (Utterance.Worded S.mappings) w.site u.site := by
  cases h with
  | outside _ h =>
    refine ⟨hw.of_keepsTypes rfl (.refl _) hw.asks, .of_said ?_⟩
    cases h <;> exact List.append_nil _
  | refused => exact ⟨hw, .refl _⟩
  | asked hx h =>
    refine hw.install hS hx (c := .ask _) (fun q hq => ?_) h
    cases hq
    exact hsupplier _ ⟨_, _, _, rfl⟩

/-- A step of a program that passes on what it has leaves the world fit, and if it is not the program that
does something, only what is composed for the mappings is said. -/
theorem Step.fit (hS : S.Discreet) (hw : Fit S w) {e : Event} (h : Step S w e v)
    (hpasses : PassesOn ⟨w, e, v⟩) :
    Fit S v ∧ (e ≠ .elsewhere → Site.Says (Utterance.Worded S.mappings) w.site v.site) := by
  cases h with
  | called n c h =>
    cases onSession_performs h with
    | missing => exact ⟨hw, fun _ => .refl _⟩
    | done hx hperform =>
      refine (hw.install hS hx (fun q hq => ?_) hperform).imp_right fun hutters _ => hutters
      subst hq
      exact hw.asks q hpasses
  | @resolved place held reference _ _ answer hr h =>
    have hlink {l : Link} (hl : l.supplier? = (Link.reference held reference).supplier?) {q : Request}
        (hq : l.Asks q) : q.Declared S.mappings := by
      obtain ⟨s, hs, hq⟩ := hq
      exact hw.asks q (asks_of_link? hr ⟨s, hl ▸ hs, hq⟩)
    cases resolve_resolves h with
    | known => exact ⟨hw, fun _ => .refl _⟩
    | failed hserved =>
      have hfit := hserved.fit hS hw fun q hq => hlink rfl ⟨_, rfl, hq⟩
      exact hfit.imp_right fun hutters _ => hutters
    | filled hserved =>
      obtain ⟨hu, hutters⟩ := hserved.fit hS hw fun q hq => hlink rfl ⟨_, rfl, hq⟩
      refine ⟨hu.of_keepsTypes (setLink_sessions ..) (setLink_keepsTypes _ _ _) fun q hq => ?_,
        fun _ => ?_⟩
      · exact (setLink_asks hq).elim (hu.asks q) fun hq => hlink rfl hq
      · exact hutters.trans (.of_said (congrArg _ (setLink_outside ..)))
  | loaded held c h =>
    cases load_loads h with
    | known => exact ⟨hw, fun _ => .refl _⟩
    | failed hserved =>
      have hfit := hserved.fit hS hw fun q hq => hw.asks q (hpasses held q ⟨_, rfl, hq⟩)
      exact hfit.imp_right fun hutters _ => hutters
    | filled hserved =>
      obtain ⟨hu, hutters⟩ := hserved.fit hS hw fun q hq => hw.asks q (hpasses held q ⟨_, rfl, hq⟩)
      exact ⟨hu.of_keepsTypes rfl (Heap.fillCell_extends _ _ _).keepsTypes hu.asks,
        fun _ => hutters.trans (.of_said rfl)⟩
  | opened connection showSql => exact ⟨hw.opened connection showSql, fun _ => .refl _⟩
  | elsewhere hheap hsize hsessions =>
    refine ⟨hw.elsewhere (.elsewhere hheap hsize hsessions) fun q hq => ?_, fun he => absurd rfl he⟩
    exact hw.asks q (hpasses q hq)

/-- **No name and no value gets into a statement.** Whatever the mappings are, in every run of a program
that passes on what it has, every statement that a session sends, called or asked by an association, was
composed for the mappings, with identifiers for names and a question mark for each value. -/
theorem worded_of_run (hS : S.Discreet) {outside : Overheard δ} {trace : List (Moment (Overheard δ))}
    (hrun : Run (Step S) (start outside) trace w) (hpasses : ∀ m ∈ trace, PassesOn m) :
    ∀ m ∈ trace, m.event ≠ .elsewhere →
      Site.Says (Utterance.Worded S.mappings) m.before.site m.after.site := by
  intro m hm
  obtain ⟨first, last, rfl⟩ := List.append_of_mem hm
  obtain ⟨hfirst, hstep, -⟩ := hrun.split
  have hfit : Fit S m.before := by
    refine hfirst.invariant (fun d hd hstep hw => ?_) (fit_start S outside)
    exact (hstep.fit hS hw (hpasses d (List.mem_append_left _ hd))).1
  exact (hstep.fit hS hfit (hpasses m hm)).2

end World

/-! ### The animals of a person -/

namespace Keepers

theorem discreet : schema.Discreet := by
  refine Declaration.discreet_schema fun d hd f hf l bindable hholding => ?_
  simp only [List.mem_cons, List.not_mem_nil, or_false] at hd
  rcases hd with rfl | rfl <;>
    simp only [people, animals, List.mem_cons, List.not_mem_nil, or_false] at hf
  · rcases hf with rfl | rfl | rfl | rfl | rfl <;> cases hholding <;> rfl
  · rcases hf with rfl | rfl | rfl <;> cases hholding <;> rfl

/-- A place where everybody is known, and nobody has a guide or a favourite. -/
structure Village where

instance : Database Village where
  query _ sql values d :=
    (.ok (if sql.startsWith "SELECT person_no" then
      [.of ["person_no", "guide_id", "favourite_tag"] (values ++ [.null, .null])] else []), d)
  execute _ _ _ d := (.ok 1, d)
  insert _ _ _ d := (.ok ⟨1, []⟩, d)
  setAutoCommit _ _ d := (.ok (), d)
  commit _ d := (.ok (), d)
  rollback _ d := (.ok (), d)
  close _ d := (.ok (), d)

instance : Callbacks Village where
  loadOne _ _ d := (.ok none, d)
  loadMany _ d := (.ok [], d)
  supply _ d := (.ok [], d)
  performAction _ d := (.ok (), d)

/-- A session is opened. -/
def arrived : World (Overheard Village) :=
  ((World.openSession 0 false).perform (World.start ⟨{}, []⟩)).2

/-- A person is looked for. -/
def introduced : Except Error (List InstanceId) × World (Overheard Village) :=
  (World.onSession 0 ((Session.Call.find "Person" (.bigInt 7)).act schema)).perform arrived

/-- The animals of the person, which are loaded on first access. -/
def herd : Collection :=
  .lazy false 1 (.request "Person" "animals" (.session 0)
    (.byQuery ⟨"Animal", .foreignKey "kept_by", .bigInt 7⟩))

/-- The animals are loaded. -/
def counted : Except Error (List InstanceId) × World (Overheard Village) :=
  (World.load schema "Animal" herd).perform introduced.2

/-- The moments of a visit. -/
def visit : List (World.Moment (Overheard Village)) :=
  [⟨World.start ⟨{}, []⟩, .opened, arrived⟩,
   ⟨arrived, .called 0 (.find "Person" (.bigInt 7)) introduced.1, introduced.2⟩,
   ⟨introduced.2, .loaded herd counted.1, counted.2⟩]

/-- Two statements are heard, the second with a column that is named by the mapping of animals. -/
theorem worded_of_run_visit :
    (∀ m ∈ visit, m.event ≠ .elsewhere →
      Site.Says (Utterance.Worded schema.mappings) m.before.site m.after.site) ∧
    counted.2.site.outside.said.filterMap Utterance.sent? =
      [("SELECT person_no, guide_id, favourite_tag FROM people WHERE person_no = ?", [.bigInt 7]),
       ("SELECT tag, kept_by FROM Animal WHERE kept_by = ?", [.bigInt 7])] := by
  refine ⟨?_, by decide +kernel⟩
  have hrun : Run (World.Step schema) (World.start ⟨{}, []⟩) visit counted.2 :=
    .cons (.opened 0 false _) (.cons (.called 0 _ rfl) (.cons (.loaded "Animal" _ rfl) (.nil _)))
  refine World.worded_of_run discreet hrun fun m hm => ?_
  simp only [visit, List.mem_cons, List.not_mem_nil, or_false] at hm
  rcases hm with rfl | rfl | rfl
  · trivial
  · trivial
  · have hherd : introduced.2.link? (.field 0 "animals") = some (.collection "Animal" herd) := by
      decide +kernel
    exact fun held q hq => World.asks_of_link? hherd hq

end Keepers

end EntitySession
