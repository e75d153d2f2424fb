import EntitySession.Proofs.Clean
import EntitySession.Proofs.Worlds

/-!
# Reading makes nothing dirty

Finding instances, resolving references and loading collections write nothing, so nothing should be
dirty afterwards that was not dirty before.  What may go wrong is a reference: as long as it is not
loaded it shows the value that its join column has, and once it is loaded, the identifier of its target,
or NULL if there is none.  The two are the same if the row of the target was there and had the
identifier that it was asked for (`World.Meets`), and then reading makes nothing dirty and makes no
flush send an update (`World.read_clean`).

Without that, reading does make something dirty, and the flush that comes next writes it to the
database: `Pets.read_dirties` shows it for a row that is missing and for a row that has another
identifier.  Nor does a flush with nothing dirty send no update at all: one that waits already, since an
earlier flush has failed while it looked for changes, is sent.
-/

set_option autoImplicit false

namespace EntitySession

variable {δ : Type} {S : Schema}

namespace Session

variable [Database δ] [Callbacks δ]

/-- What reading leaves of a session in which nothing was dirty. -/
structure StaysClean (S : Schema) (x y : Work (Recorded δ)) : Prop where
  clean : Clean S y
  queue : y.session.queue = x.session.queue
  /-- If no update was waiting before, a flush sends none now. -/
  flushed : (∀ a ∈ x.session.queue.pending, a.isUpdate = false) →
    y.site.SendsNoUpdate ((flush S).perform y).2.site

end Session

namespace World

/-- If a reference of an instance was loaded, it has got an instance of the type that it refers to, and
this has the identifier that was looked for. -/
def Meets (S : Schema) (h : Heap) (e : Event) (i : InstanceId) (f : PersistentField × String) : Prop :=
  ∀ key supplier result, e = .resolved (.field i f.1.name) (.unloaded key none supplier) (.ok result) →
    ∃ t id, result = some t ∧ h.typeOf t = f.2 ∧ h.id S t = .ok id ∧ (id == key) = true

/-- What a read makes of the instances leaves a foreign key as it was, if its target was found. -/
theorem Reads.keepsForeignKey (hS : S.Lawful) (hR : S.ReadsReferences) {e : Event} {h h' : Heap}
    {i : InstanceId} {f : PersistentField × String} (hr : Reads h e h') (hf : h.IsReference S i f)
    (hmeets : Meets S h' e i f) : h.KeepsForeignKey S i f.1 h' := by
  cases hr with
  | grown hh => exact hh.keepsForeignKey i f.1
  | @kept j name held key supplier result h₁ hh hlink =>
    refine (hh.keepsForeignKey i f.1).trans ?_
    have hf₁ := hf.of_keepsTypes hh.keepsTypes
    by_cases hji : j = i
    · by_cases hname : name = f.1.name
      · subst hji
        subst hname
        obtain ⟨t, id, rfl, htarget, hid, hkey⟩ := hmeets key supplier result rfl
        exact Heap.setLink_loaded_keepsForeignKey hR hf₁ (hh.link? hlink) htarget hid hkey
      · exact Heap.setLink_keepsForeignKey hS hR hf₁ (.inr hname) _
    · exact Heap.setLink_keepsForeignKey hS hR hf₁ (.inl hji) _

/-- Whatever reference of an instance that the session with a number tracks was loaded, its target was
found. -/
def FindsTargets (S : Schema) (n : Nat) (m : Moment δ) : Prop :=
  ∀ y, m.after.work? n = some y → ∀ c ∈ y.session.context.instances, ∀ f,
    m.after.site.heap.IsReference S c.2 f → Meets S m.after.site.heap m.event c.2 f

section Steps

variable [Database δ] [Callbacks δ] {w v : World δ} {n : Nat} {x : Work δ}

/-- A read leaves a session clean, if the targets of what it tracks were found. -/
theorem Step.stays_clean (hS : S.Lawful) (hR : S.ReadsReferences) {m : Moment δ}
    (h : Step S m.before m.event m.after) (he : m.event.IsRead) (hfinds : FindsTargets S n m)
    (hx : m.before.work? n = some x) (hs : Session.Sound S x) (hclean : Session.Clean S x) :
    ∃ y, m.after.work? n = some y ∧ Session.Sound S y ∧ Session.Clean S y ∧
      y.session.queue = x.session.queue := by
  obtain ⟨y, hgrowth, hreads, hy⟩ := h.read he hx
  obtain ⟨hs', hclean'⟩ := hclean.growths hs hgrowth
  have hvalues := hreads.keepsValues hS
  have hsound : Session.Sound S ⟨m.after.site, y.session⟩ := hs'.of_keepsTypes hvalues.types
  refine ⟨_, hy, hsound, (Session.clean_iff hsound).2 fun c hc => ?_,
    (Work.grows_of_growth hgrowth).queue⟩
  obtain ⟨z, hz, -⟩ := (hs'.context.entry c hc).isInstance
  have hkeys : Heap.KeepsForeignKeys S c.2 y.site.heap m.after.site.heap := fun f hf =>
    hreads.keepsForeignKey hS hR hf (hfinds _ hy c hc f (hf.of_keepsTypes hvalues.types))
  exact hkeys.differs hvalues hz ((Session.clean_iff hs').1 hclean' c hc)

/-- Reading keeps the foreign key of a reference, if its target was found. -/
theorem run_keepsForeignKey (hS : S.Lawful) (hR : S.ReadsReferences) {trace : List (Moment δ)}
    (hrun : Run (Step S) w trace v) (hread : ∀ m ∈ trace, m.event.IsRead) {i : InstanceId}
    {f : PersistentField × String} (hf : w.site.heap.IsReference S i f)
    (hmeets : ∀ m ∈ trace, Meets S m.after.site.heap m.event i f) :
    w.site.heap.KeepsForeignKey S i f.1 v.site.heap := by
  let P (u : World δ) : Prop :=
    u.site.heap.IsReference S i f ∧ w.site.heap.KeepsForeignKey S i f.1 u.site.heap
  have hrefl := (Heap.Extends.refl w.site.heap).keepsForeignKey (S := S) i f.1
  refine (hrun.invariant (P := P) (fun m hm hstep hbefore => ?_) ⟨hf, hrefl⟩).2
  obtain ⟨hfb, hkeys⟩ := hbefore
  have hreads := hstep.reads (hread m hm)
  exact ⟨hfb.of_keepsTypes (hreads.keepsValues hS).types,
    hkeys.trans (hreads.keepsForeignKey hS hR hfb (hmeets m hm))⟩

/-- Reading leaves a session clean, if the targets of what it tracks were found. -/
theorem run_clean (hS : S.Lawful) (hR : S.ReadsReferences) {trace : List (Moment δ)}
    (hrun : Run (Step S) w trace v) (hread : ∀ m ∈ trace, m.event.IsRead)
    (hfinds : ∀ m ∈ trace, FindsTargets S n m) (hx : w.work? n = some x) (hs : Session.Sound S x)
    (hclean : Session.Clean S x) :
    ∃ y, v.work? n = some y ∧ Session.Sound S y ∧ Session.Clean S y ∧
      y.session.queue = x.session.queue := by
  let P (u : World δ) : Prop := ∃ y, u.work? n = some y ∧ Session.Sound S y ∧ Session.Clean S y ∧
    y.session.queue = x.session.queue
  refine hrun.invariant (P := P) (fun m hm hstep hbefore => ?_) ⟨x, hx, hs, hclean, rfl⟩
  obtain ⟨y, hy, hs', hclean', hqueue⟩ := hbefore
  obtain ⟨z, hz, hs'', hclean'', hqueue'⟩ :=
    hstep.stays_clean hS hR (hread m hm) (hfinds m hm) hy hs' hclean'
  exact ⟨z, hz, hs'', hclean'', hqueue'.trans hqueue⟩

end Steps

/-- Reading changes no foreign key whose target was found, and if all targets of what a session tracks
were found, it makes nothing dirty there, queues nothing, and makes no flush send an update. -/
theorem read_clean [Database δ] [Callbacks δ] (hS : S.Lawful) (hR : S.ReadsReferences)
    {w v : World (Recorded δ)} {trace : List (Moment (Recorded δ))} {n : Nat} {x : Work (Recorded δ)}
    (hw : Reachable S w) (hx : w.work? n = some x) (hclean : Session.Clean S x)
    (hrun : Run (Step S) w trace v) (hread : ∀ m ∈ trace, m.event.IsRead) :
    (∀ i f, w.site.heap.IsReference S i f →
      (∀ m ∈ trace, Meets S m.after.site.heap m.event i f) →
        w.site.heap.KeepsForeignKey S i f.1 v.site.heap) ∧
      ((∀ m ∈ trace, FindsTargets S n m) → ∃ y, v.work? n = some y ∧ Session.StaysClean S x y) := by
  refine ⟨fun i f hf hmeets => run_keepsForeignKey hS hR hrun hread hf hmeets, fun hfinds => ?_⟩
  obtain ⟨y, hy, hs, hclean', hqueue⟩ :=
    run_clean hS hR hrun hread hfinds hx (hw.session hS hx).sound hclean
  refine ⟨y, hy, hclean', hqueue, fun hnone => ?_⟩
  exact Session.flush_sendsNoUpdate hs hclean' (hqueue ▸ hnone)

end World

/-! ## Pets and their owners

A pet has a number, a name and an owner, who is loaded on first access. -/

namespace Pets

/-- An owner: a number and a name. -/
def owners : Declaration :=
  { entity := "Owner"
    marked := true
    table := none
    fields :=
      [⟨{ Field.simple "id" .bigInt with isId := true }, .anyValue⟩,
       ⟨Field.simple "name" .text, .anyValue⟩]
    constructionFault := none
    bindable := true }

/-- A pet: a number, a name and its owner. -/
def pets : Declaration :=
  { entity := "Pet"
    marked := true
    table := none
    fields :=
      [⟨{ Field.simple "id" .bigInt with isId := true }, .anyValue⟩,
       ⟨Field.simple "name" .text, .anyValue⟩,
       ⟨{ Field.simple "owner" .text with
          association := some ⟨.manyToOne, "Owner", none, .list, none⟩ },
        .container (.reference "Owner" .empty) true⟩]
    constructionFault := none
    bindable := true }

/-- Pets and owners are the only entities. -/
def schema : Schema := Declaration.schema [pets, owners]

/-- The reference of a pet. -/
def ownerField : PersistentField × String :=
  (⟨"owner", "owner_id", .bigInt, .reference "Owner"⟩, "Owner")

/-- The metadata of a type in which only the references are open. -/
structure Outline (m : Metadata) (references : List (PersistentField × String)) : Prop where
  identifier : m.identifier.name = "id"
  simple : m.simpleFields = [⟨"name", "name", .text, .simple⟩]
  references : m.references = references

theorem outline_of_ok {entity : String} {m : Metadata} (h : schema.metadata entity = .ok m) :
    entity = "Pet" ∧ Outline m [ownerField] ∨ entity = "Owner" ∧ Outline m [] := by
  obtain ⟨d, hd, rfl, -⟩ := Declaration.exists_of_metadata h
  rcases List.mem_pair.1 hd with rfl | rfl
  · have hpet : ((schema.metadata "Pet").toOption.map fun m =>
        (m.identifier.name, m.simpleFields, m.references)) =
          some ("id", [⟨"name", "name", .text, .simple⟩], [ownerField]) := by decide +kernel
    rw [show schema.metadata "Pet" = .ok m from h] at hpet
    simp only [Except.toOption, Option.map_some, Option.some.injEq, Prod.mk.injEq] at hpet
    exact .inl ⟨rfl, hpet.1, hpet.2.1, hpet.2.2⟩
  · have howner : ((schema.metadata "Owner").toOption.map fun m =>
        (m.identifier.name, m.simpleFields, m.references)) =
          some ("id", [⟨"name", "name", .text, .simple⟩], []) := by decide +kernel
    rw [show schema.metadata "Owner" = .ok m from h] at howner
    simp only [Except.toOption, Option.map_some, Option.some.injEq, Prod.mk.injEq] at howner
    exact .inr ⟨rfl, howner.1, howner.2.1, howner.2.2⟩

theorem eq_ownerField {h : Heap} {i : InstanceId} {f : PersistentField × String}
    (hf : h.IsReference schema i f) : f = ownerField := by
  obtain ⟨x, m, -, hm, hmem⟩ := hf
  obtain ⟨-, houtline⟩ | ⟨-, houtline⟩ := outline_of_ok hm
  · rw [houtline.references] at hmem
    exact List.mem_singleton.1 hmem
  · rw [houtline.references] at hmem
    cases hmem

/-- What both declarations hold as a value of any kind, and what only one of them has. -/
theorem Outline.fits {m : Metadata} {references : List (PersistentField × String)}
    (hm : Outline m references) {d : Declaration} (hid : d.holding? "id" = some .anyValue)
    (hinitial : (d.initial.value? "id").isSome = true) (hname : d.holding? "name" = some .anyValue)
    (hreferences : ∀ f ∈ references, ∃ l bindable, d.holding? f.1.name = some (.container l bindable)) :
    d.Fits m := by
  refine ⟨by rw [hm.identifier, hid], by rw [hm.identifier, hinitial], fun f hf => ?_, ?_⟩
  · rw [hm.simple] at hf
    rw [List.mem_singleton.1 hf, hname]
    simp
  · rwa [hm.references]

theorem fits {d : Declaration} (hd : d ∈ [pets, owners]) {m : Metadata}
    (hm : schema.metadata d.entity = .ok m) : d.Fits m := by
  rcases List.mem_pair.1 hd with rfl | rfl
  · obtain ⟨-, houtline⟩ | ⟨hentity, -⟩ := outline_of_ok hm
    · refine houtline.fits ?_ ?_ ?_ fun f hf => ⟨.reference "Owner" .empty, true, ?_⟩
      · simp [Declaration.holding?, pets, Field.simple]
      · decide +kernel
      · simp [Declaration.holding?, pets, Field.simple]
      · simp [Declaration.holding?, pets, Field.simple, List.mem_singleton.1 hf, ownerField]
    · simp [pets] at hentity
  · obtain ⟨hentity, -⟩ | ⟨-, houtline⟩ := outline_of_ok hm
    · simp [owners] at hentity
    · refine houtline.fits ?_ ?_ ?_ (by simp)
      · simp [Declaration.holding?, owners, Field.simple]
      · decide +kernel
      · simp [Declaration.holding?, owners, Field.simple]

theorem lawful : schema.Lawful := Declaration.lawful_schema fun _ hd _ => fits hd

theorem readsReferences : schema.ReadsReferences :=
  Declaration.readsReferences_schema fun _ hd _ => fits hd

/-! ### Finding a pet and resolving its owner -/

/-- The row of a pet. -/
def petRow (n : Int64) (owner : Value) : Row :=
  .of ["id", "name", "owner_id"] [.bigInt n, .text "Rex", owner]

/-- The row of an owner. -/
def ownerRow (n : Int64) : Row := .of ["id", "name"] [.bigInt n, .text "Ann"]

/-- A session over a connection that gives the answers in turn. -/
def opened (answers : List (List Row)) : World (Recorded Rehearsal.Scene) :=
  let connection := { Rehearsal.ScriptedConnection.start "pets" with results := answers }
  let scene := { Rehearsal.Scene.empty with connections := #[.scripted connection] }
  ((World.openSession 0 false).perform (World.start ⟨scene, []⟩)).2

/-- A session is called for something. -/
def call (c : Session.Call) (w : World (Recorded Rehearsal.Scene)) :
    Except Error (List InstanceId) × World (Recorded Rehearsal.Scene) :=
  (World.onSession 0 (c.act schema)).perform w

/-- The first pet, whose owner is the seventh, was found; the rows are what will come back when the
owner is looked for. -/
def found (rows : List Row) : World (Recorded Rehearsal.Scene) :=
  (call (.find "Pet" (.bigInt 1)) (opened [[petRow 1 (.bigInt 7)], rows])).2

/-- The owner of the pet, which is loaded on first access. -/
def owner : Reference :=
  .unloaded (.bigInt 7) none
    (.request "Pet" "owner" (.session 0) (.byKey "Owner" (.bigInt 7)))

/-- The owner is resolved. -/
def resolve (rows : List Row) : Except Error (Option InstanceId) × World (Recorded Rehearsal.Scene) :=
  (World.resolve schema (.field 0 "owner") "Owner" owner).perform (found rows)

/-- The moment in which it is. -/
def moment (rows : List Row) : World.Moment (Recorded Rehearsal.Scene) :=
  ⟨found rows, .resolved (.field 0 "owner") owner (resolve rows).1, (resolve rows).2⟩

theorem reachable_opened (answers : List (List Row)) : World.Reachable schema (opened answers) :=
  ⟨_, _, .single (.opened 0 false _)⟩

theorem reachable_call {w : World (Recorded Rehearsal.Scene)} (hw : World.Reachable schema w)
    (c : Session.Call) : World.Reachable schema (call c w).2 :=
  hw.step (.called 0 c rfl)

theorem reachable_found (rows : List Row) : World.Reachable schema (found rows) :=
  reachable_call (reachable_opened _) _

theorem run_moment {rows : List Row}
    (h : (found rows).link? (.field 0 "owner") = some (.reference "Owner" owner)) :
    Run (World.Step schema) (found rows) [moment rows] (resolve rows).2 :=
  .single (.resolved _ "Owner" h rfl)

/-- Whether the session of a world is open with nothing dirty. -/
def isClean (w : World (Recorded Rehearsal.Scene)) : Bool :=
  match w.work? 0 with
  | some x => x.session.isOpen && x.session.context.instances.all fun e =>
      (x.session.context.differsFor schema x.site.heap e).toOption == some false
  | none => false

theorem clean_of_isClean {w : World (Recorded Rehearsal.Scene)} (hw : World.Reachable schema w)
    (h : isClean w = true) :
    ∃ x, w.work? 0 = some x ∧ x.session.isOpen = true ∧ Session.Clean schema x := by
  unfold isClean at h
  split at h
  · next x hx =>
    rw [Bool.and_eq_true, List.all_eq_true] at h
    refine ⟨x, hx, h.1, ?_⟩
    refine (Session.clean_iff (hw.session lawful hx).sound).2 fun e he => ?_
    have hfalse := h.2 e he
    exact ok_of_toOption (beq_iff_eq.1 hfalse)
  · cases h

theorem link_found_seventh :
    (found [ownerRow 7]).link? (.field 0 "owner") = some (.reference "Owner" owner) := by
  decide +kernel

/-- The owner that was found is the one that was looked for. -/
theorem meets_seventh (i : InstanceId) :
    World.Meets schema (resolve [ownerRow 7]).2.site.heap (moment [ownerRow 7]).event i ownerField := by
  intro key supplier result he
  have hanswer : (resolve [ownerRow 7]).1.toOption = some (some 1) := by decide +kernel
  have hid : (resolve [ownerRow 7]).2.site.heap.id schema 1 = .ok (.bigInt 7) :=
    ok_of_toOption (by decide +kernel)
  obtain ⟨-, hreference, hresult⟩ := World.Event.resolved.inj he
  obtain ⟨rfl, -⟩ := Reference.unloaded.inj hreference
  rw [hresult] at hanswer
  obtain rfl := Option.some.inj hanswer
  exact ⟨1, _, rfl, by decide +kernel, hid, BEq.rfl⟩

/-- The owner is there: the pet keeps its foreign key, and nothing becomes dirty. -/
theorem read_clean_seventh :
    (found [ownerRow 7]).site.heap.KeepsForeignKey schema 0 ownerField.1
        (resolve [ownerRow 7]).2.site.heap ∧
      ∃ x y, (found [ownerRow 7]).work? 0 = some x ∧ (resolve [ownerRow 7]).2.work? 0 = some y ∧
        Session.StaysClean schema x y := by
  have hreachable := reachable_found [ownerRow 7]
  obtain ⟨x, hx, -, hclean⟩ := clean_of_isClean hreachable (by decide +kernel)
  obtain ⟨hkeys, hstays⟩ := World.read_clean lawful readsReferences hreachable hx hclean
    (run_moment link_found_seventh) (List.forall_mem_singleton.2 trivial)
  have hpet : (found [ownerRow 7]).site.heap.IsReference schema 0 ownerField := by
    have hentity : ((found [ownerRow 7]).site.heap.instances[0]?).map Instance.entity = some "Pet" := by
      decide +kernel
    obtain ⟨pet, hpet, hentity⟩ := Option.map_eq_some_iff.1 hentity
    obtain ⟨m, hm⟩ := exists_of_isOk (show (schema.metadata "Pet").isOk = true by decide +kernel)
    obtain ⟨-, houtline⟩ | ⟨howner, -⟩ := outline_of_ok hm
    · exact ⟨pet, m, hpet, hentity ▸ hm, houtline.references ▸ List.mem_singleton_self _⟩
    · simp at howner
  refine ⟨hkeys 0 ownerField hpet (List.forall_mem_singleton.2 (meets_seventh 0)), x, ?_⟩
  obtain ⟨y, hy, hxy⟩ := hstays (List.forall_mem_singleton.2 fun y hy c hc f hf => by
    rw [eq_ownerField hf]
    exact meets_seventh c.2)
  exact ⟨y, hx, hy, hxy⟩

/-! ### What goes wrong -/

/-- The text of an update of a pet. -/
def updateText : String := "UPDATE Pet SET name = ?, owner_id = ? WHERE id = ?;"

/-- A flush of the session sends an update. -/
def Updates (w : World (Recorded Rehearsal.Scene)) : Prop :=
  ∃ y, w.work? 0 = some y ∧ ¬y.site.SendsNoUpdate ((Session.flush schema).perform y).2.site

/-- Whether a flush of the session sends an update of a pet. -/
def isUpdating (w : World (Recorded Rehearsal.Scene)) : Bool :=
  match w.work? 0 with
  | some y =>
    (((Session.flush schema).perform y).2.site.outside.exchanges.drop
      y.site.outside.exchanges.length).any fun x => x.sql == updateText
  | none => false

theorem updates_of_isUpdating {w : World (Recorded Rehearsal.Scene)} (h : isUpdating w = true) :
    Updates w := by
  unfold isUpdating at h
  split at h
  · next y hy =>
    refine ⟨y, hy, ?_⟩
    rintro ⟨xs, hxs, hnone⟩
    rw [hxs, List.drop_left, List.any_eq_true] at h
    obtain ⟨x, hx, hsql⟩ := h
    refine hnone x hx ⟨"Pet SET name = ?, owner_id = ? WHERE id = ?;", ?_⟩
    rw [beq_iff_eq.1 hsql]
    decide +kernel
  · cases h

/-- A pet was found and is clean, and resolving its owner, which is a read, makes it dirty. -/
structure Dirties (rows : List Row) : Prop where
  reachable : World.Reachable schema (found rows)
  clean : ∃ x, (found rows).work? 0 = some x ∧ x.session.isOpen = true ∧ Session.Clean schema x ∧
    x.session.queue.pending = []
  run : Run (World.Step schema) (found rows) [moment rows] (resolve rows).2
  isRead : (moment rows).event.IsRead
  foreignKey : ¬(found rows).site.heap.KeepsForeignKey schema 0 ownerField.1 (resolve rows).2.site.heap
  dirty : ∃ y, (resolve rows).2.work? 0 = some y ∧
    y.session.context.isDirty schema y.site.heap ⟨"Pet", .bigInt 1⟩ = .ok true
  updates : Updates (resolve rows).2

/-- Whether nothing waits in the session, and whether the pet is dirty there. -/
def outlook (w : World (Recorded Rehearsal.Scene)) : Option (Bool × Option Bool) :=
  (w.work? 0).map fun x => (x.session.queue.pending.isEmpty,
    (x.session.context.isDirty schema x.site.heap ⟨"Pet", .bigInt 1⟩).toOption)

theorem dirties {rows : List Row} {v : Value}
    (hlink : (found rows).link? (.field 0 "owner") = some (.reference "Owner" owner))
    (hclean : isClean (found rows) = true) (hbefore : outlook (found rows) = some (true, some false))
    (hafter : outlook (resolve rows).2 = some (true, some true))
    (hkey : ((found rows).site.heap.get schema 0 "owner").toOption = some (.bigInt 7))
    (hkey' : ((resolve rows).2.site.heap.get schema 0 "owner").toOption = some v)
    (hv : (v == .bigInt 7) = false) (hupdates : isUpdating (resolve rows).2 = true) :
    Dirties rows := by
  have hreachable := reachable_found rows
  obtain ⟨x, hx, hopen, hclean⟩ := clean_of_isClean hreachable hclean
  obtain ⟨y, hy, hdirty⟩ := Option.map_eq_some_iff.1 hafter
  rw [outlook, hx, Option.map_some, Option.some.injEq] at hbefore
  refine ⟨hreachable, ⟨x, hx, hopen, hclean, ?_⟩, run_moment hlink, trivial, fun hkeeps => ?_,
    ⟨y, hy, ok_of_toOption (Prod.mk.inj hdirty).2⟩, updates_of_isUpdating hupdates⟩
  · exact List.isEmpty_iff.1 (Prod.mk.inj hbefore).1
  · obtain ⟨u, hu, hstands⟩ := hkeeps _ (ok_of_toOption hkey)
    rw [show (resolve rows).2.site.heap.get schema 0 ownerField.1.name = .ok v from
      ok_of_toOption hkey', Except.ok.injEq] at hu
    subst hu
    rw [hstands.same] at hv
    cases hv

/-- What a pet holds. -/
def petRecord (n : Int64) (name : String) (owner : Reference) : Record :=
  ⟨[("id", .bigInt n), ("name", .text name)], [("owner", .reference "Owner" owner)]⟩

/-- The program replaces what the first two instances hold. -/
def overwrite (first second : Record) (w : World (Recorded Rehearsal.Scene)) :
    World (Recorded Rehearsal.Scene) :=
  { w with site :=
    { w.site with heap := (w.site.heap.setRecord 0 first).setRecord 1 second } }

/-- Two pets without an owner were found. -/
def pair : World (Recorded Rehearsal.Scene) :=
  let first := (call (.find "Pet" (.bigInt 1)) (opened [[petRow 1 .null], [petRow 2 .null]])).2
  (call (.find "Pet" (.bigInt 2)) first).2

/-- There is an owner whose identifier is no number. -/
def stranger : World (Recorded Rehearsal.Scene) :=
  { pair with site :=
    { pair.site with heap :=
      (pair.site.heap.add "Owner" ⟨[("id", .text "x"), ("name", .text "Ann")], []⟩).2 } }

/-- The pets have other names, and the first has the stranger for an owner. -/
def renamed : World (Recorded Rehearsal.Scene) :=
  overwrite (petRecord 1 "Tom" (.loaded 2)) (petRecord 2 "Tom" .empty) stranger

/-- A flush has failed, since it cannot write the owner, and the pets are what they were. -/
def stale : World (Recorded Rehearsal.Scene) :=
  overwrite (petRecord 1 "Rex" .empty) (petRecord 2 "Rex" .empty) (call .flush renamed).2

theorem reachable_overwrite {w : World (Recorded Rehearsal.Scene)} (hw : World.Reachable schema w)
    (first second : Record) : World.Reachable schema (overwrite first second w) := by
  have hfirst := Heap.setRecord_keepsTypes w.site.heap 0 first
  exact hw.step (.of_keepsTypes (hfirst.trans (Heap.setRecord_keepsTypes _ 1 second)))

theorem reachable_stale : World.Reachable schema stale := by
  have hpair : World.Reachable schema pair := reachable_call (reachable_call (reachable_opened _) _) _
  have hstranger : World.Step schema pair .elsewhere stranger :=
    .of_keepsTypes (Heap.Extends.keepsTypes (Heap.add_extends _ _ _))
  exact reachable_overwrite (reachable_call (reachable_overwrite (hpair.step hstranger) _ _) _) _ _

/-- Reading as such does not keep a session clean: if the row of the owner is missing or is another
one, the foreign key changes when it is resolved, and the next flush writes that.  And even without any
read a flush sends an update that was left waiting by a flush that has failed. -/
theorem read_dirties : Dirties [] ∧ Dirties [ownerRow 8] ∧ World.Reachable schema stale ∧
    (∃ x, stale.work? 0 = some x ∧ x.session.isOpen = true ∧ Session.Clean schema x) ∧
      Updates stale := by
  refine ⟨?missing, ?other, reachable_stale, ?clean, ?updates⟩
  case missing =>
    have hkey : ((resolve []).2.site.heap.get schema 0 "owner").toOption = some .null := by
      decide +kernel
    refine dirties ?_ ?_ ?_ ?_ ?_ hkey ?_ ?_ <;> decide +kernel
  case other =>
    have hkey : ((resolve [ownerRow 8]).2.site.heap.get schema 0 "owner").toOption =
        some (.bigInt 8) := by decide +kernel
    refine dirties ?_ ?_ ?_ ?_ ?_ hkey ?_ ?_ <;> decide +kernel
  case clean => exact clean_of_isClean reachable_stale (by decide +kernel)
  case updates => exact updates_of_isUpdating (by decide +kernel)

end Pets

end EntitySession
