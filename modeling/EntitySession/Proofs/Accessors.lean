import EntitySession.Declaration
import EntitySession.Proofs.Casts
import EntitySession.Proofs.Heaps
import EntitySession.Proofs.Metadata

/-!
# Accessors that keep what they are given

What the accessors of a type make of a record is their own affair.  Where something depends on them,
this is what they are asked for (`EntityClass.Lawful`):

* an identifier reads as it was written, and writing or binding another field leaves it alone;
* an association value is no part of the identifier or of a simple field.

Where it matters how references are read, they are to be read through their own association values and
no others (`EntityClass.ReadsReferences`).

It follows that an instance that was made of a row has the identifier that the row has
(`Heap.id_of_hydrate`), and that an association value that is put into an instance shows nowhere but at
its own field.  The declared classes comply if they hold each field as its role asks for
(`Declaration.lawful_schema`, `Declaration.readsReferences_schema`).
-/

set_option autoImplicit false

namespace EntitySession

/-! ## The laws -/

/-- The records that the accessors of a class make, beginning with a new instance. -/
inductive EntityClass.Makes (C : EntityClass) : Record → Prop
  | fresh {r : Record} (h : C.construct = .ok r) : Makes C r
  | written {r r' : Record} {field : String} {v : Value} (hr : Makes C r)
      (h : C.write r field v = .ok r') : Makes C r'
  | bound {r r' : Record} {field : String} {b : Binding} (hr : Makes C r)
      (h : C.bind r field b = .ok r') : Makes C r'

/-- The accessors of a class with the given metadata keep what they are given. -/
structure EntityClass.Lawful (C : EntityClass) (m : Metadata) : Prop where
  /-- The identifier reads as it was written. -/
  identifier : ∀ {r r' : Record} {v : Value}, C.Makes r → v.cast m.identifier.sqlType = .ok v →
    C.write r m.identifier.name v = .ok r' →
      ∃ u, C.read r' m.identifier.name = .ok (.value u) ∧ u.cast m.identifier.sqlType = .ok v
  /-- Writing another field leaves the identifier alone. -/
  written : ∀ {r r' : Record} {field : String} {v : Value}, C.Makes r → field ≠ m.identifier.name →
    C.write r field v = .ok r' → C.read r' m.identifier.name = C.read r m.identifier.name
  /-- Binding an association leaves the identifier alone. -/
  bound : ∀ {r r' : Record} {field : String} {b : Binding}, C.Makes r → C.bind r field b = .ok r' →
    C.read r' m.identifier.name = C.read r m.identifier.name
  /-- Association values are no part of plain fields. -/
  plain : ∀ f ∈ m.identifier :: m.simpleFields, ∀ (r : Record) (name : String) (l : Link),
    C.read (r.setLink name l) f.name = C.read r f.name

/-- The references of a class with the given metadata are read where they are held. -/
structure EntityClass.ReadsReferences (C : EntityClass) (m : Metadata) : Prop where
  /-- A reference is read through its association value. -/
  reference : ∀ f ∈ m.references, ∀ (r : Record) (held : String) (x : Reference),
    r.link? f.1.name = some (.reference held x) → C.read r f.1.name = .ok (.reference x)
  /-- A reference is not read through another association value. -/
  other : ∀ f ∈ m.references, ∀ (r : Record) (name : String) (l : Link), name ≠ f.1.name →
    C.read (r.setLink name l) f.1.name = C.read r f.1.name

/-- The accessors of every type keep what they are given. -/
def Schema.Lawful (S : Schema) : Prop :=
  ∀ entity m, S.metadata entity = .ok m → (S entity).Lawful m

/-- The references of every type are read where they are held. -/
def Schema.ReadsReferences (S : Schema) : Prop :=
  ∀ entity m, S.metadata entity = .ok m → (S entity).ReadsReferences m

/-! ## The identifier of a new instance -/

/-- The position of an element is the number of those before it. -/
theorem exists_append_idxOf {α : Type} [DecidableEq α] {as : List α} {a : α} (h : a ∈ as) :
    ∃ front back, as = front ++ a :: back ∧ as.idxOf a = front.length := by
  obtain ⟨front, back, rfl, hnew⟩ := List.eq_append_cons_of_mem h
  refine ⟨front, back, rfl, ?_⟩
  rw [List.idxOf_append, if_neg hnew, List.idxOf_cons_self, Nat.zero_add]

namespace Hydration

variable {S : Schema} {loader : Loader} {entity : String} {m : Metadata} {row : Row}

/-- What reading a field makes of the identifier and the record so far: a reference is bound, any other
field is written with the value in the declared form. -/
inductive Placed (S : Schema) (loader : Loader) (entity : String) (f : PersistentField)
    (v ownerId : Value) (r : Record) : Value → Record → Prop
  | identifier {r' : Record} (hrole : f.role = .identifier)
      (h : (S entity).write r f.name v = .ok r') : Placed S loader entity f v ownerId r v r'
  | simple {r' : Record} (hrole : f.role = .simple) (h : (S entity).write r f.name v = .ok r') :
      Placed S loader entity f v ownerId r ownerId r'
  | reference {target : String} {r' : Record} (hrole : f.role = .reference target)
      (h : (S entity).bind r f.name (.reference entity f.name target v loader
        (S.constructionFault target)) = .ok r') :
      Placed S loader entity f v ownerId r ownerId r'

theorem cellOf_eq_ok {f : PersistentField} {position : Nat} {raw : Value} :
    cellOf entity row position f = .ok raw ↔ row.namedOrAt? f.column position = some raw := by
  cases hcell : row.namedOrAt? f.column position <;> simp [cellOf, hcell]

/-- A record is made of a new instance by reading the fields and then binding the associations. -/
theorem record_ok_iff {cell : CellId} {r : Record} : record S loader m row cell = .ok r ↔
    ∃ fresh ownerId filled, (S m.entity).construct = .ok fresh ∧
      readFields S loader m.entity row 0 m.fields .null fresh = .ok (ownerId, filled) ∧
        bindAssociations S loader m.entity ownerId cell m.associations filled = .ok r := by
  rw [record]
  constructor
  · intro h
    split at h
    · cases h
    · next fresh hfresh =>
      obtain ⟨⟨ownerId, filled⟩, hfilled, hbound⟩ := bind_eq_ok.1 h
      exact ⟨fresh, ownerId, filled, hfresh, hfilled, hbound⟩
  · rintro ⟨fresh, ownerId, filled, hfresh, hfilled, hbound⟩
    rw [hfresh]
    exact bind_eq_ok.2 ⟨_, hfilled, hbound⟩

/-- Fields are read one after another. -/
theorem readFields_cons {f : PersistentField} {fields : List PersistentField} {position : Nat}
    {ownerId : Value} {r : Record} {out : Value × Record} :
    readFields S loader entity row position (f :: fields) ownerId r = .ok out ↔
      ∃ raw v ownerId' r', row.namedOrAt? f.column position = some raw ∧ raw.cast f.sqlType = .ok v ∧
        Placed S loader entity f v ownerId r ownerId' r' ∧
          readFields S loader entity row (position + 1) fields ownerId' r' = .ok out := by
  simp only [readFields, bind_eq_ok, cellOf_eq_ok, mapError_eq_ok]
  constructor
  · rintro ⟨raw, hraw, v, hv, h⟩
    cases hrole : f.role with
    | reference target =>
      simp only [hrole, bind_eq_ok] at h
      obtain ⟨r', hr', h⟩ := h
      exact ⟨raw, v, _, r', hraw, hv, .reference hrole hr', h⟩
    | identifier =>
      simp only [hrole, bind_eq_ok, mapError_eq_ok] at h
      obtain ⟨r', hr', h⟩ := h
      exact ⟨raw, v, _, r', hraw, hv, .identifier hrole hr', h⟩
    | simple =>
      simp only [hrole, bind_eq_ok, mapError_eq_ok] at h
      obtain ⟨r', hr', h⟩ := h
      exact ⟨raw, v, _, r', hraw, hv, .simple hrole hr', h⟩
  · rintro ⟨raw, v, ownerId', r', hraw, hv, hplaced, h⟩
    refine ⟨raw, hraw, v, hv, ?_⟩
    cases hplaced with
    | identifier hrole hr' | simple hrole hr' =>
      simp only [hrole, bind_eq_ok, mapError_eq_ok]
      exact ⟨r', hr', h⟩
    | reference hrole hr' =>
      simp only [hrole, bind_eq_ok]
      exact ⟨r', hr', h⟩

theorem Placed.makes {f : PersistentField} {v ownerId ownerId' : Value} {r r' : Record}
    (h : Placed S loader entity f v ownerId r ownerId' r') (hr : (S entity).Makes r) :
    (S entity).Makes r' := by
  cases h with
  | identifier _ h | simple _ h => exact .written hr h
  | reference _ h => exact .bound hr h

/-- Fields that are not called like the identifier leave it alone. -/
theorem readFields_others (hC : (S entity).Lawful m) {fields : List PersistentField} {position : Nat}
    {ownerId ownerId' : Value} {r r' : Record} (hr : (S entity).Makes r)
    (hfields : ∀ f ∈ fields, f.name ≠ m.identifier.name)
    (h : readFields S loader entity row position fields ownerId r = .ok (ownerId', r')) :
    (S entity).Makes r' ∧
      (S entity).read r' m.identifier.name = (S entity).read r m.identifier.name := by
  induction fields generalizing position ownerId r with
  | nil =>
    cases h
    exact ⟨hr, rfl⟩
  | cons f fields ih =>
    obtain ⟨hname, hfields⟩ := List.forall_mem_cons.1 hfields
    obtain ⟨raw, v, _, r₁, -, -, hplaced, h⟩ := readFields_cons.1 h
    obtain ⟨hmakes, hread⟩ := ih (hplaced.makes hr) hfields h
    refine ⟨hmakes, hread.trans ?_⟩
    cases hplaced with
    | identifier _ hw | simple _ hw => exact hC.written hr hname hw
    | reference _ hb => exact hC.bound hr hb

/-- When all fields are read, the identifier reads as the row has it. -/
theorem readFields_identifier (hC : (S entity).Lawful m) (hm : m.Sound)
    {front back : List PersistentField} {position : Nat} {ownerId ownerId' : Value} {r r' : Record}
    (hr : (S entity).Makes r)
    (hfields : ((front ++ m.identifier :: back).map PersistentField.name).Nodup)
    (h : readFields S loader entity row position (front ++ m.identifier :: back) ownerId r =
      .ok (ownerId', r')) :
    (S entity).Makes r' ∧ ∃ raw v u,
      row.namedOrAt? m.identifier.column (position + front.length) = some raw ∧
        raw.cast m.identifier.sqlType = .ok v ∧
          (S entity).read r' m.identifier.name = .ok (.value u) ∧
            u.cast m.identifier.sqlType = .ok v := by
  induction front generalizing position ownerId r with
  | nil =>
    obtain ⟨hnew, -⟩ := List.nodup_cons.1 hfields
    have hothers : ∀ f ∈ back, f.name ≠ m.identifier.name := by
      intro f hf hname
      exact hnew (hname ▸ List.mem_map_of_mem hf)
    obtain ⟨raw, v, _, r₁, hraw, hv, hplaced, h⟩ := readFields_cons.1 h
    obtain ⟨hmakes, hread⟩ := readFields_others hC (hplaced.makes hr) hothers h
    cases hplaced with
    | identifier _ hw =>
      obtain ⟨u, hu, hcast⟩ := hC.identifier hr (Value.cast_cast hv) hw
      exact ⟨hmakes, raw, v, u, hraw, hv, hread.trans hu, hcast⟩
    | simple hrole | reference hrole =>
      rw [hm.identifier_role] at hrole
      cases hrole
  | cons f front ih =>
    obtain ⟨-, hfields⟩ := List.nodup_cons.1 hfields
    obtain ⟨_, _, _, r₁, -, -, hplaced, h⟩ := readFields_cons.1 h
    have := ih (hplaced.makes hr) hfields h
    rw [List.length_cons, ← Nat.add_assoc, Nat.add_right_comm]
    exact this

theorem bindAssociations_keeps (hC : (S entity).Lawful m) {ownerId : Value} {cell : CellId}
    {associations : List InverseAssociation} {r r' : Record} (hr : (S entity).Makes r)
    (h : bindAssociations S loader entity ownerId cell associations r = .ok r') :
    (S entity).read r' m.identifier.name = (S entity).read r m.identifier.name := by
  induction associations generalizing cell r with
  | nil =>
    cases h
    rfl
  | cons a rest ih =>
    rw [bindAssociations] at h
    obtain ⟨b, -, h⟩ := bind_eq_ok.1 h
    obtain ⟨r₁, hr₁, h⟩ := bind_eq_ok.1 h
    exact (ih (.bound hr hr₁) h).trans (hC.bound hr hr₁)

end Hydration

/-- The cell that the identifier is read from. -/
def Metadata.identifierCell? (m : Metadata) (row : Row) : Option Value :=
  row.namedOrAt? m.identifier.column (m.fields.idxOf m.identifier)

namespace Heap

variable {S : Schema} {h h' : Heap}

/-- An instance that was made of a row has the identifier that the row has. -/
theorem id_of_hydrate (hS : S.Lawful) {loader : Loader} {entity : String} {row : Row} {i : InstanceId}
    {m : Metadata} (hm : S.metadata entity = .ok m) (hh : h.hydrate S loader entity row = .ok (i, h')) :
    ∃ raw v, m.identifierCell? row = some raw ∧ raw.cast m.identifier.sqlType = .ok v ∧
      h'.id S i = .ok v := by
  have hsound := Mappings.sound_of_resolve hm
  obtain rfl := Mappings.entity_of_resolve hm
  obtain ⟨m', record, hm', hrecord, hinstances, rfl⟩ := hydrate_eq_ok hh
  rw [hm, Except.ok.injEq] at hm'
  subst hm'
  obtain ⟨front, back, hfields, hposition⟩ := exists_append_idxOf m.identifier_mem
  obtain ⟨fresh, ownerId, filled, hfresh, hfilled, hbound⟩ := Hydration.record_ok_iff.1 hrecord
  have hnodup := hsound.names_nodup
  rw [hfields] at hfilled hnodup
  obtain ⟨hmakes, raw, v, u, hraw, hv, hu, hcast⟩ :=
    Hydration.readFields_identifier (hS _ _ hm) hsound (.fresh hfresh) hnodup hfilled
  have hread := Hydration.bindAssociations_keeps (hS _ _ hm) hmakes hbound
  refine ⟨raw, v, ?_, hv, ?_⟩
  · rwa [Metadata.identifierCell?, hposition, ← Nat.zero_add front.length]
  · refine id_eq_ok.2 ⟨⟨m.entity, record⟩, m, u, ?_, hm, hread.trans hu, hcast⟩
    rw [hinstances, Array.getElem?_push_size]

/-! ## Association values -/

theorem setLink_getElem? (h : Heap) (i j : InstanceId) (name : String) (l : Link) :
    (h.setLink i name l).instances[j]? =
      if i = j then (h.instances[j]?).map fun x => { x with record := x.record.setLink name l }
      else h.instances[j]? :=
  Array.getElem?_modify ..

theorem setLink_typeOf (h : Heap) (i j : InstanceId) (name : String) (l : Link) :
    (h.setLink i name l).typeOf j = h.typeOf j := by
  rw [typeOf, typeOf, setLink_getElem?]
  split
  · cases h.instances[j]? <;> rfl
  · rfl

theorem setLink_keepsTypes (h : Heap) (i : InstanceId) (name : String) (l : Link) :
    KeepsTypes h (h.setLink i name l) := by
  intro j x hx
  rw [setLink_getElem?, hx]
  split
  · exact ⟨_, rfl, rfl⟩
  · exact ⟨x, rfl, rfl⟩

/-- A field that does not show an association value reads the same after it was put. -/
theorem read_setLink {i j : InstanceId} {name field : String} {l : Link}
    (hread : ∀ r, (S (h.typeOf j)).read (r.setLink name l) field = (S (h.typeOf j)).read r field) :
    (h.setLink i name l).read S j field = h.read S j field := by
  rw [read, read, setLink_getElem?]
  by_cases hij : i = j
  · rw [if_pos hij]
    cases hx : h.instances[j]? with
    | none => rfl
    | some x =>
      rw [typeOf_of_some hx] at hread
      exact hread x.record
  · rw [if_neg hij]

/-- Association values are no part of identifiers. -/
theorem setLink_id (hS : S.Lawful) (h : Heap) (i j : InstanceId) (name : String) (l : Link) :
    (h.setLink i name l).id S j = h.id S j := by
  rw [id, id, setLink_typeOf]
  cases hm : S.metadata (h.typeOf j) with
  | error e => rfl
  | ok m =>
    have hread : (h.setLink i name l).read S j m.identifier.name = h.read S j m.identifier.name :=
      read_setLink fun r => (hS _ _ hm).plain _ List.mem_cons_self r name l
    change ((h.setLink i name l).read S j m.identifier.name >>= _) =
      (h.read S j m.identifier.name >>= _)
    rw [hread]

/-- A field whose reading is the same has the same value. -/
theorem get_setLink (hS : S.Lawful) {i j : InstanceId} {name field : String} {l : Link}
    (hread : (h.setLink i name l).read S j field = h.read S j field) :
    (h.setLink i name l).get S j field = h.get S j field := by
  have hid : (h.setLink i name l).id S = h.id S := funext fun j => setLink_id hS h i j name l
  rw [get, get, hread, hid]

/-- Association values are no part of simple columns. -/
theorem setLink_columnValues (hS : S.Lawful) (h : Heap) (i j : InstanceId) (name : String) (l : Link) :
    (h.setLink i name l).columnValues S j = h.columnValues S j := by
  rw [columnValues, columnValues, setLink_typeOf]
  cases hm : S.metadata (h.typeOf j) with
  | error e => rfl
  | ok m =>
    have hget : ∀ f ∈ m.simpleFields,
        (h.setLink i name l).get S j f.name = h.get S j f.name := fun f hf =>
      get_setLink hS (read_setLink fun r =>
        (hS _ _ hm).plain f (List.mem_cons_of_mem _ hf) r name l)
    exact mapM_congr fun f hf => by rw [hget f hf]

/-- To put an association value changes no identifier and no simple column. -/
theorem setLink_keepsValues (hS : S.Lawful) (h : Heap) (i : InstanceId) (name : String) (l : Link) :
    KeepsValues S h (h.setLink i name l) := by
  refine ⟨setLink_keepsTypes h i name l, fun j v hv => ?_, fun j x _ cs hcs => ?_⟩
  · rw [setLink_id hS, hv]
  · rw [setLink_columnValues hS, hcs]

end Heap

/-! ## Declared classes -/

theorem Record.link?_setLink (r : Record) (name other : String) (l : Link) :
    (r.setLink name l).link? other =
      if name = other then (r.link? other).map fun _ => l else r.link? other :=
  Record.lookup_replace ..

theorem Record.value?_setValue (r : Record) (name other : String) (v : Value) :
    (r.setValue name v).value? other =
      if name = other then (r.value? other).map fun _ => v else r.value? other :=
  Record.lookup_replace ..

namespace Declaration

variable {d : Declaration} {m : Metadata}

/-- A declaration holds each field as its role asks for: the identifier as a value of any kind, the
simple fields plainly, the references in containers. -/
structure Fits (d : Declaration) (m : Metadata) : Prop where
  identifier : d.holding? m.identifier.name = some .anyValue
  initial : (d.initial.value? m.identifier.name).isSome = true
  simple : ∀ f ∈ m.simpleFields, ∀ l bindable, d.holding? f.name ≠ some (.container l bindable)
  references : ∀ f ∈ m.references, ∃ l bindable, d.holding? f.1.name = some (.container l bindable)

/-- A value belongs to one field. -/
theorem read_setValue_of_ne {name field : String} (hne : field ≠ name) (r : Record) (v : Value) :
    d.read (r.setValue name v) field = d.read r field := by
  rw [read, read]
  split
  · rfl
  · rw [Record.value?_setValue, if_neg hne.symm]
  · rfl

/-- A write replaces a value. -/
theorem exists_setValue_of_write {r r' : Record} {name : String} {v : Value}
    (h : d.write r name v = .ok r') :
    ∃ u, r' = r.setValue name u ∧ (d.holding? name = some .anyValue → u = v) := by
  rw [write] at h
  split at h
  · cases h
    exact ⟨v, rfl, fun _ => rfl⟩
  · next slot hslot =>
    obtain ⟨u, -, h⟩ := bind_eq_ok.1 h
    cases h
    exact ⟨u, rfl, fun hany => by rw [hslot] at hany; cases hany⟩
  · cases h

/-- A binding replaces an association value. -/
theorem exists_setLink_of_bind {r r' : Record} {name : String} {b : Binding}
    (h : d.bind r name b = .ok r') :
    ∃ initial l, Link.bind initial b = .ok l ∧ r' = r.setLink name l := by
  rw [Declaration.bind] at h
  split at h
  · obtain ⟨l, hl, h⟩ := bind_eq_ok.1 h
    cases h
    exact ⟨_, l, hl, rfl⟩
  · cases h

/-- A field that is not held in a container does not read through an association value. -/
theorem read_setLink_of_plain {name : String}
    (hname : ∀ l bindable, d.holding? name ≠ some (.container l bindable)) (r : Record)
    (other : String) (l : Link) : d.read (r.setLink other l) name = d.read r name := by
  rw [read, read]
  split
  · next hcontainer => exact absurd hcontainer (hname _ _)
  · rfl
  · rfl

/-- A declared class keeps a place for its identifier. -/
theorem Fits.makes (hd : d.Fits m) {r : Record} (hr : d.toClass.Makes r) :
    ∃ v, r.value? m.identifier.name = some v := by
  induction hr with
  | fresh h =>
    simp only [toClass] at h
    split at h
    · cases h
    · cases h
      exact Option.isSome_iff_exists.1 hd.initial
  | written _ h ih =>
    obtain ⟨u, rfl, -⟩ := exists_setValue_of_write h
    obtain ⟨v, hv⟩ := ih
    rw [Record.value?_setValue, hv]
    split
    · exact ⟨u, rfl⟩
    · exact ⟨v, rfl⟩
  | bound _ h ih =>
    obtain ⟨-, l, -, rfl⟩ := exists_setLink_of_bind h
    exact ih

/-- A declared class that holds each field as its role asks for keeps what it is given. -/
theorem Fits.lawful (hd : d.Fits m) : d.toClass.Lawful m := by
  have hidentifier : ∀ l bindable, d.holding? m.identifier.name ≠ some (.container l bindable) := by
    intro l bindable h
    rw [hd.identifier] at h
    cases h
  have hvalue (r : Record) :
      d.read r m.identifier.name = .ok (.value ((r.value? m.identifier.name).getD .null)) := by
    rw [read, hd.identifier]
  refine ⟨fun {r r' v} hr hv hw => ?_, fun {r r' field v} hr hne hw => ?_,
    fun {r r' field b} hr hb => ?_, fun f hf r name l => ?_⟩
  · obtain ⟨u, rfl, hu⟩ := exists_setValue_of_write hw
    obtain ⟨v', hv'⟩ := hd.makes hr
    refine ⟨v, ?_, hv⟩
    change d.read _ _ = _
    rw [hvalue, Record.value?_setValue, if_pos rfl, hv', hu hd.identifier]
    rfl
  · obtain ⟨u, rfl, -⟩ := exists_setValue_of_write hw
    exact read_setValue_of_ne (Ne.symm hne) r u
  · obtain ⟨-, l, -, rfl⟩ := exists_setLink_of_bind hb
    exact read_setLink_of_plain hidentifier r field l
  · refine read_setLink_of_plain ?_ r name l
    rcases List.mem_cons.1 hf with rfl | hf
    · exact hidentifier
    · exact hd.simple f hf

/-- A declared class that holds each reference in a container reads it there. -/
theorem Fits.readsReferences (hd : d.Fits m) : d.toClass.ReadsReferences m := by
  refine ⟨fun f hf r held x hx => ?_, fun f hf r name l hne => ?_⟩
  · obtain ⟨initial, bindable, hholding⟩ := hd.references f hf
    change d.read _ _ = _
    rw [read, hholding]
    simp only [hx, Option.bind_some, Link.reference?]
  · obtain ⟨initial, bindable, hholding⟩ := hd.references f hf
    change d.read _ _ = d.read _ _
    rw [read, read, hholding]
    simp only [Record.link?_setLink, if_neg hne]

/-- Only a declared type has metadata. -/
theorem exists_of_metadata {ds : List Declaration} {entity : String}
    (h : (schema ds).metadata entity = .ok m) :
    ∃ d ∈ ds, d.entity = entity ∧ schema ds entity = d.toClass := by
  cases hd : ds.find? fun d => d.entity == entity with
  | some d =>
    have hentity : (d.entity == entity) = true := by simpa using List.find?_some hd
    refine ⟨d, List.mem_of_find?_eq_some hd, beq_iff_eq.1 hentity, ?_⟩
    rw [schema, named, hd, Option.getD_some]
  | none =>
    have hclass : schema ds entity = (unmarked entity).toClass := by
      rw [schema, named, hd, Option.getD_none]
    have hmapping : (schema ds).mappings entity = (unmarked entity).mapping := congrArg _ hclass
    rw [Schema.metadata, Mappings.resolve, hmapping] at h
    cases h

theorem lawful_schema {ds : List Declaration}
    (h : ∀ d ∈ ds, ∀ m, (schema ds).metadata d.entity = .ok m → d.Fits m) : (schema ds).Lawful := by
  intro entity m hm
  obtain ⟨d, hd, rfl, hclass⟩ := exists_of_metadata hm
  rw [hclass]
  exact (h d hd m hm).lawful

theorem readsReferences_schema {ds : List Declaration}
    (h : ∀ d ∈ ds, ∀ m, (schema ds).metadata d.entity = .ok m → d.Fits m) :
    (schema ds).ReadsReferences := by
  intro entity m hm
  obtain ⟨d, hd, rfl, hclass⟩ := exists_of_metadata hm
  rw [hclass]
  exact (h d hd m hm).readsReferences

end Declaration

end EntitySession
