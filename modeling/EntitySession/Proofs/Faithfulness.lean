import EntitySession.Proofs.Accessors

/-!
# Accessors that give back what they are given

What an instance holds goes through accessors that its type has of its own.  For a value to come back, they
have to take part: what a plain field reports anywhere must be accepted everywhere and read again, and a
binding that fits must be put into its container, all without a change to the other fields
(`EntityClass.Faithful`).

Declared classes are like this if they hold plain fields as values and associations in the containers that
the mapping asks for (`Declaration.faithful`).
-/

set_option autoImplicit false

namespace EntitySession

/-- The container that an association without a column asks for. -/
def InverseAssociation.container (a : InverseAssociation) : Link :=
  if a.kind.isToOne then .reference a.target .empty
  else .collection a.target (.ofItems (a.collection = .set) [])

/-- The fields with a column read the same in two records, but for one of them. -/
def EntityClass.AgreeBut (C : EntityClass) (m : Metadata) (name : String) (r r' : Record) : Prop :=
  ∀ f ∈ m.fields, f.name ≠ name → C.read r' f.name = C.read r f.name

/-- A value that a field of a record reports: it reads as this value, or as a reference with this key. -/
def EntityClass.Reports (C : EntityClass) (r : Record) (name : String) (v : Value) : Prop :=
  C.read r name = .ok (.value v) ∨
    ∃ x idOf, C.read r name = .ok (.reference x) ∧ x.foreignKey idOf = .ok v

/-- The accessors of a class with the given metadata give back what they are given, in records of the kind
that its instances have. -/
structure EntityClass.Faithful (C : EntityClass) (m : Metadata) (State : Record → Prop) : Prop where
  constructed : ∀ {r : Record}, C.construct = .ok r → State r
  /-- A value that a plain field reports somewhere can be written anywhere, and is read again. -/
  plain : ∀ f ∈ m.fields, f.isReference = false → ∀ {r : Record} {v : Value}, State r →
    C.Reports r f.name v → ∀ {s : Record}, State s → ∃ s', C.write s f.name v = .ok s' ∧ State s' ∧
      C.read s' f.name = .ok (.value v) ∧ C.AgreeBut m f.name s s'
  /-- A binding that fits a reference is put there. -/
  reference : ∀ f target, (f, target) ∈ m.references → ∀ {r : Record} {b : Binding} {x : Reference},
    State r → Reference.ofBinding b target = .ok x → ∃ r', C.bind r f.name b = .ok r' ∧ State r' ∧
      C.read r' f.name = .ok (.reference x) ∧ C.AgreeBut m f.name r r'
  /-- A binding that fits the container of an association without a column is taken. -/
  inverse : ∀ a ∈ m.associations, ∀ {r : Record} {b : Binding} {l : Link}, State r →
    a.container.bind b = .ok l → ∃ r', C.bind r a.field b = .ok r' ∧ State r' ∧ C.AgreeBut m a.field r r'

/-! ## Declared classes -/

namespace Slot

theorem ofValueOption_toValueOption (c : Carrier) (x : Option c.Data) :
    c.ofValueOption (c.toValueOption x) = .ok x := by
  cases x with
  | none => rfl
  | some x =>
    have hnull : (c.toValue x).isNull = false := by cases c <;> rfl
    rw [Carrier.toValueOption, Carrier.ofValueOption, hnull, Carrier.ofValue_toValue]
    rfl

theorem pass_initial (s : Slot) : s.pass s.initial = .ok s.initial := by
  rw [pass, initial]
  split
  · rw [ofValueOption_toValueOption]
    rfl
  · rw [Carrier.ofValue_toValue]
    rfl

end Slot

namespace Declaration

variable {d : Declaration} {m : Metadata} {r : Record} {name : String}

/-- A record of a declared class has something for each field, and what a field of a native type has went
through that type. -/
structure Holds (d : Declaration) (r : Record) : Prop where
  values : ∀ name, d.holding? name = some .anyValue → ∃ v, r.value? name = some v
  natives : ∀ name slot, d.holding? name = some (.native slot) →
    ∃ v, r.value? name = some v ∧ slot.pass v = .ok v
  links : ∀ name l bindable, d.holding? name = some (.container l bindable) →
    ∃ l', r.link? name = some l'

/-- What fields hold at first is found under their names; of those with one name the first counts. -/
theorem lookup_firstFields {α : Type} {select : DeclaredField → Option (String × α)}
    (hselect : ∀ f e, select f = some e → e.1 = f.field.name) {fields : List DeclaredField}
    {seen : List String} (hname : name ∉ seen) {f : DeclaredField}
    (hf : fields.find? (fun f => f.field.name == name) = some f) {x : α} (hx : select f = some (name, x)) :
    ((firstFields fields seen).filterMap select).lookup name = some x := by
  induction fields generalizing seen with
  | nil => cases hf
  | cons g fields ih =>
    rw [firstFields]
    by_cases hg : g.field.name = name
    · have hfg : g = f := by simpa [hg] using hf
      subst hfg
      have hnew : seen.contains g.field.name = false := by simpa [hg] using hname
      rw [hnew, if_neg Bool.false_ne_true, List.filterMap_cons_some hx, List.lookup_cons_self]
    · have hrest : fields.find? (fun f => f.field.name == name) = some f := by simpa [hg] using hf
      split
      · exact ih hname hrest
      · have hlookup := ih (show name ∉ g.field.name :: seen by simp [hname, Ne.symm hg]) hrest
        cases hselected : select g with
        | none => rwa [List.filterMap_cons_none hselected]
        | some e =>
          have hne : (name == e.1) = false := by simpa [hselect g e hselected] using Ne.symm hg
          rwa [List.filterMap_cons_some hselected, List.lookup_cons, hne]

theorem exists_of_holding? {holding : Holding} (h : d.holding? name = some holding) :
    ∃ f, d.fields.find? (fun f => f.field.name == name) = some f ∧ f.field.name = name ∧
      f.holding = holding := by
  obtain ⟨f, hf, hholding⟩ := Option.map_eq_some_iff.1 h
  exact ⟨f, hf, by simpa using List.find?_some hf, hholding⟩

theorem holds_initial (d : Declaration) : d.Holds d.initial := by
  have hvalue : ∀ f e, DeclaredField.initialValue? f = some e → e.1 = f.field.name := by
    intro f e he
    rw [DeclaredField.initialValue?] at he
    split at he <;> cases he <;> rfl
  have hlink : ∀ f e, DeclaredField.initialLink? f = some e → e.1 = f.field.name := by
    intro f e he
    rw [DeclaredField.initialLink?] at he
    split at he <;> cases he
    rfl
  refine ⟨fun name h => ?_, fun name slot h => ?_, fun name l bindable h => ?_⟩
  · obtain ⟨f, hf, rfl, hholding⟩ := exists_of_holding? h
    have hx : f.initialValue? = some (f.field.name, .null) := by rw [DeclaredField.initialValue?, hholding]
    exact ⟨_, lookup_firstFields hvalue List.not_mem_nil hf hx⟩
  · obtain ⟨f, hf, rfl, hholding⟩ := exists_of_holding? h
    have hx : f.initialValue? = some (f.field.name, slot.initial) := by
      rw [DeclaredField.initialValue?, hholding]
    exact ⟨_, lookup_firstFields hvalue List.not_mem_nil hf hx, slot.pass_initial⟩
  · obtain ⟨f, hf, rfl, hholding⟩ := exists_of_holding? h
    have hx : f.initialLink? = some (f.field.name, l) := by rw [DeclaredField.initialLink?, hholding]
    exact ⟨_, lookup_firstFields hlink List.not_mem_nil hf hx⟩

theorem Holds.setValue (hr : d.Holds r) {v : Value}
    (hv : ∀ slot, d.holding? name = some (.native slot) → slot.pass v = .ok v) :
    d.Holds (r.setValue name v) := by
  refine ⟨fun other hother => ?_, fun other slot hother => ?_, hr.links⟩
  · obtain ⟨u, hu⟩ := hr.values other hother
    rw [Record.value?_setValue, hu]
    split
    · exact ⟨v, rfl⟩
    · exact ⟨u, rfl⟩
  · obtain ⟨u, hu, hpass⟩ := hr.natives other slot hother
    rw [Record.value?_setValue, hu]
    split
    · next hname =>
      subst hname
      exact ⟨v, rfl, hv slot hother⟩
    · exact ⟨u, rfl, hpass⟩

theorem Holds.setLink (hr : d.Holds r) (name : String) (l : Link) : d.Holds (r.setLink name l) := by
  refine ⟨hr.values, hr.natives, fun other initial bindable hother => ?_⟩
  obtain ⟨l', hl'⟩ := hr.links other initial bindable hother
  rw [Record.link?_setLink, hl']
  split
  · exact ⟨l, rfl⟩
  · exact ⟨l', rfl⟩

/-- A field is held as a value, of any kind or of a native type. -/
def HoldsValue (d : Declaration) (name : String) : Prop :=
  d.holding? name = some .anyValue ∨ ∃ slot, d.holding? name = some (.native slot)

/-- A declaration holds plain fields as values, and associations in the containers that they ask for. -/
structure Mirrors (d : Declaration) (m : Metadata) : Prop where
  plain : ∀ f ∈ m.fields, f.isReference = false → d.HoldsValue f.name
  references : ∀ f target, (f, target) ∈ m.references → ∃ l,
    d.holding? f.name = some (.container l true) ∧ ∀ b, l.bind b = (Link.reference target .empty).bind b
  inverses : ∀ a ∈ m.associations, ∃ l,
    d.holding? a.field = some (.container l true) ∧ ∀ b, l.bind b = a.container.bind b
  bindable : d.bindable = true

theorem agreeBut_setValue (r : Record) (name : String) (v : Value) :
    d.toClass.AgreeBut m name r (r.setValue name v) :=
  fun _ _ hname => read_setValue_of_ne hname r v

theorem agreeBut_setLink (r : Record) (name : String) (l : Link) :
    d.toClass.AgreeBut m name r (r.setLink name l) := by
  intro f _ hname
  change d.read _ _ = d.read _ _
  rw [read, read]
  split
  · rw [Record.link?_setLink, if_neg (Ne.symm hname)]
  · rfl
  · rfl

/-- A field that is held as a value reads as it. -/
theorem HoldsValue.read (hplain : d.HoldsValue name) {v : Value} (hv : r.value? name = some v) :
    d.read r name = .ok (.value v) := by
  rcases hplain with hholding | ⟨slot, hholding⟩ <;> rw [Declaration.read, hholding] <;>
    simp only [hv, Option.getD_some]

/-- What a field is held as can be written to it. -/
theorem Holds.written (hr : d.Holds r) (hplain : d.HoldsValue name) :
    ∃ v, r.value? name = some v ∧ ∀ {s : Record}, d.Holds s → d.write s name v = .ok (s.setValue name v) ∧
      d.Holds (s.setValue name v) ∧ (s.setValue name v).value? name = some v := by
  have hreplaced {s : Record} {u : Value} (hu : s.value? name = some u) (v : Value) :
      (s.setValue name v).value? name = some v := by
    rw [Record.value?_setValue, if_pos rfl, hu]
    rfl
  rcases hplain with hholding | ⟨slot, hholding⟩
  · obtain ⟨v, hv⟩ := hr.values name hholding
    refine ⟨v, hv, fun {s} hs => ⟨by rw [write, hholding], hs.setValue fun slot hslot => ?_, ?_⟩⟩
    · rw [hholding] at hslot
      cases hslot
    · obtain ⟨u, hu⟩ := hs.values name hholding
      exact hreplaced hu v
  · obtain ⟨v, hv, hpass⟩ := hr.natives name slot hholding
    refine ⟨v, hv, fun {s} hs => ⟨?_, hs.setValue fun slot' hslot => ?_, ?_⟩⟩
    · rw [write, hholding]
      exact bind_eq_ok.2 ⟨v, hpass, rfl⟩
    · rw [hholding] at hslot
      cases hslot
      exact hpass
    · obtain ⟨u, hu, -⟩ := hs.natives name slot hholding
      exact hreplaced hu v

/-- A binding that fits what a field holds at first is put there. -/
theorem bind_of_container (hbindable : d.bindable = true) {l l' : Link}
    (hholding : d.holding? name = some (.container l true)) {b : Binding} (hl : l.bind b = .ok l')
    (r : Record) : d.bind r name b = .ok (r.setLink name l') := by
  rw [Declaration.bind, hbindable, hholding]
  exact bind_eq_ok.2 ⟨l', hl, rfl⟩

/-- A declared class that holds its fields as they ask for gives back what it is given. -/
theorem faithful (hd : d.Mirrors m) : d.toClass.Faithful m d.Holds := by
  refine ⟨fun {r} hr => ?_, fun f hf hplain r v hr hv s hs => ?_, fun f target hf r b x hr hb => ?_,
    fun a ha r b l hr hb => ?_⟩
  · simp only [toClass] at hr
    split at hr
    · cases hr
    · cases hr
      exact d.holds_initial
  · obtain ⟨u, hu, hwrite⟩ := hr.written (hd.plain f hf hplain)
    have hread := (hd.plain f hf hplain).read hu
    obtain rfl : u = v := by
      rcases hv with hv | ⟨x, _, hx, -⟩
      · cases hread.symm.trans hv
        rfl
      · cases hread.symm.trans hx
    obtain ⟨hw, hs', hu'⟩ := hwrite hs
    exact ⟨_, hw, hs', (hd.plain f hf hplain).read hu', agreeBut_setValue s f.name u⟩
  · obtain ⟨l, hholding, hl⟩ := hd.references f target hf
    obtain ⟨l', hl'⟩ := hr.links _ _ _ hholding
    have hbind : l.bind b = .ok (.reference target x) := (hl b).trans (map_eq_ok.2 ⟨x, hb, rfl⟩)
    refine ⟨_, bind_of_container hd.bindable hholding hbind r, hr.setLink f.name _, ?_,
      agreeBut_setLink r f.name _⟩
    change d.read _ _ = _
    rw [read, hholding]
    simp only [Record.link?_setLink, hl', Option.map_some, Option.bind_some, if_true, Link.reference?]
  · obtain ⟨l', hholding, hl⟩ := hd.inverses a ha
    exact ⟨_, bind_of_container hd.bindable hholding ((hl b).trans hb) r, hr.setLink a.field l,
      agreeBut_setLink r a.field l⟩

end Declaration

end EntitySession
