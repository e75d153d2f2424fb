import EntitySession.Proofs.Faithfulness
import EntitySession.Proofs.NormalForms

/-!
# Two ways from a value to native data

Native data is taken out of a value in two ways.  A caller who reads a row converts the cell directly
(`Carrier.ofValue`); an instance that is made of a row casts the cell to the declared type of the field
first, and the field converts what it is then given.  The two were written apart, and they differ in what
they accept: a string is taken from a decimal and bytes are taken from a text, but no cast makes a text or
a blob of anything else.

Where the cast goes through, though, both ways lead to the same data, because a form in the type of a
carrier is the data that the carrier takes, put into a value again (`Carrier.exists_of_castTo?`).  Apart
from strings and bytes that is all that a cast does (`Carrier.castTo?_eq_map`), so there the converse holds
too.  So a field that is held natively ends up with what a direct reading of its cell would have given
(`Hydration.readFields_native`).
-/

set_option autoImplicit false

namespace EntitySession

namespace Carrier

variable {c : Carrier} {v w : Value}

/-- The declared type whose values hold the data of a carrier. -/
def sqlType : Carrier → SqlType
  | bool => .boolean
  | int16 => .smallInt
  | int32 => .integer
  | int64 => .bigInt
  | double => .double
  | string => .text
  | bytes => .blob

/-- A number that a value stands for has a place in the widest type of numbers. -/
theorem bigIntOf?_of_asInt? {n : Int} (h : v.asInt? = some n) :
    Value.bigIntOf? n = some (.bigInt (Int64.ofInt n)) := by
  rw [Value.bigIntOf?, if_pos]
  cases v with
  | bool b => cases h; cases b <;> decide
  | smallInt k => cases h; have := Int16.le_toInt k; have := Int16.toInt_lt k; omega
  | int k => cases h; have := Int32.le_toInt k; have := Int32.toInt_lt k; omega
  | bigInt k => cases h; exact ⟨Int64.le_toInt k, Int64.toInt_lt k⟩
  | _ => cases h

/-- Apart from strings and bytes, to cast is to take the data out and to put it in again. -/
theorem castTo?_eq_map (hstring : c ≠ string) (hbytes : c ≠ bytes) (v : Value) :
    v.castTo? c.sqlType = (c.ofValue? v).map c.toValue := by
  cases c with
  | bool | double => rfl
  | int16 =>
    change v.asInt?.bind Value.smallIntOf? = Option.map Value.smallInt (v.asInt?.bind _)
    cases v.asInt? with
    | none => rfl
    | some n =>
      simp only [Option.bind_some, Value.smallIntOf?]
      split <;> rfl
  | int32 =>
    change v.asInt?.bind Value.intOf? = Option.map Value.int (v.asInt?.bind _)
    cases v.asInt? with
    | none => rfl
    | some n =>
      simp only [Option.bind_some, Value.intOf?]
      split <;> rfl
  | int64 =>
    change v.asInt?.bind Value.bigIntOf? = Option.map Value.bigInt (v.asInt?.map Int64.ofInt)
    cases h : v.asInt? with
    | none => rfl
    | some n => exact bigIntOf?_of_asInt? h
  | string => exact absurd rfl hstring
  | bytes => exact absurd rfl hbytes

/-- A form in the type of a carrier is the data that the carrier takes. -/
theorem exists_of_castTo? (h : v.castTo? c.sqlType = some w) :
    ∃ x, c.ofValue? v = some x ∧ c.toValue x = w := by
  by_cases htext : c = string ∨ c = bytes
  · rcases htext with rfl | rfl <;> cases v <;> cases h <;> exact ⟨_, rfl, rfl⟩
  · obtain ⟨hstring, hbytes⟩ := not_or.1 htext
    rwa [castTo?_eq_map hstring hbytes, Option.map_eq_some_iff] at h

theorem ofValue_eq_ok {x : c.Data} : c.ofValue v = .ok x ↔ c.ofValue? v = some x := by
  cases h : c.ofValue? v <;> simp [ofValue, h]

/-- The data is the same before and after a cast. -/
theorem ofValue_of_cast (h : v.cast c.sqlType = .ok w) : c.ofValue w = c.ofValue v := by
  rcases Value.cast_eq_ok.1 h with ⟨rfl, rfl⟩ | ⟨-, hform⟩
  · rfl
  · obtain ⟨x, hx, rfl⟩ := exists_of_castTo? hform
    rw [ofValue_toValue, ofValue_eq_ok.2 hx]

theorem ofValueOption_of_cast (h : v.cast c.sqlType = .ok w) :
    c.ofValueOption w = c.ofValueOption v := by
  have hnull : w.isNull = v.isNull := by
    rw [Bool.eq_iff_iff, Value.isNull_iff, Value.isNull_iff]
    exact Value.null_iff_of_cast h
  rw [ofValueOption, ofValueOption, hnull, ofValue_of_cast h]

/-- NULL and nothing else is absent data. -/
theorem ofValueOption_eq_none : c.ofValueOption v = .ok none ↔ v = .null := by
  rw [ofValueOption, ← Value.isNull_iff]
  split
  · next hnull => exact iff_of_true rfl hnull
  · next hnull =>
    refine iff_of_false (fun h => ?_) hnull
    obtain ⟨x, -, hx⟩ := map_eq_ok.1 h
    cases hx

/-- Data that is not a string or bytes is taken from no value that cannot be cast. -/
theorem exists_cast (hstring : c ≠ string) (hbytes : c ≠ bytes) (hv : v ≠ .null) {x : c.Data}
    (h : c.ofValue v = .ok x) : v.cast c.sqlType = .ok (c.toValue x) := by
  rw [Value.cast_eq_ok_of_ne_null hv, castTo?_eq_map hstring hbytes, ofValue_eq_ok.1 h, Option.map_some]

end Carrier

/-- A slot makes the same of a value before and after a cast to the type of its carrier. -/
theorem Slot.pass_of_cast {s : Slot} {v w : Value} (h : v.cast s.carrier.sqlType = .ok w) :
    s.pass w = s.pass v := by
  rw [pass, pass, Carrier.ofValue_of_cast h, Carrier.ofValueOption_of_cast h]

/-! ## Rows -/

namespace Row

variable {r : Row} {v : Value} {k : Nat}

theorem getAs_of_get? (h : r.get? k = some v) (s : Slot) : r.getAs k s = s.pass v := by
  rw [getAs, h]

/-- A cell that is found by its name or its place has an index. -/
theorem exists_get?_of_namedOrAt? {name : String} {position : Nat}
    (h : r.namedOrAt? name position = some v) : ∃ k, r.get? k = some v := by
  rcases Option.or_eq_some_iff.1 h with hnamed | ⟨-, hplaced⟩
  · obtain ⟨k, -, hk⟩ := Option.bind_eq_some_iff.1 hnamed
    exact ⟨k, hk⟩
  · exact ⟨position, hplaced⟩

end Row

/-! ## Fields that are held natively -/

/-- What is written to a field that is held natively goes through its slot. -/
theorem Declaration.write_native {d : Declaration} {name : String} {s : Slot}
    (hholding : d.holding? name = some (.native s)) (r : Record) (v : Value) :
    d.write r name v = (s.pass v).map (r.setValue name) := by
  rw [write, hholding]
  change (s.pass v >>= fun x => .ok (r.setValue name x)) = _
  cases s.pass v <;> rfl

namespace Hydration

variable {S : Schema} {d : Declaration} {loader : Loader} {entity : String} {row : Row}

/-- What is done with one field of a declared class leaves the values of the others alone. -/
theorem Placed.value?_of_ne (hd : S entity = d.toClass) {f : PersistentField} {v ownerId ownerId' : Value}
    {r r' : Record} (h : Placed S loader entity f v ownerId r ownerId' r') {name : String}
    (hname : f.name ≠ name) : r'.value? name = r.value? name := by
  cases h with
  | identifier _ hwrite | simple _ hwrite =>
    rw [hd] at hwrite
    obtain ⟨u, rfl, -⟩ := Declaration.exists_setValue_of_write hwrite
    rw [Record.value?_setValue, if_neg hname]
  | reference _ hbind =>
    rw [hd] at hbind
    obtain ⟨-, l, -, rfl⟩ := Declaration.exists_setLink_of_bind hbind
    rfl

theorem readFields_value? (hd : S entity = d.toClass) {fields : List PersistentField} {name : String}
    (hfields : ∀ f ∈ fields, f.name ≠ name) {position : Nat} {ownerId ownerId' : Value} {r r' : Record}
    (h : readFields S loader entity row position fields ownerId r = .ok (ownerId', r')) :
    r'.value? name = r.value? name := by
  induction fields generalizing position ownerId r with
  | nil =>
    cases h
    rfl
  | cons f fields ih =>
    obtain ⟨hname, hfields⟩ := List.forall_mem_cons.1 hfields
    obtain ⟨_, _, _, r₁, -, -, hplaced, h⟩ := readFields_cons.1 h
    exact (ih hfields h).trans (hplaced.value?_of_ne hd hname)

/-- When all fields are read, one that is held natively, in the carrier of its type, has what its slot
makes of the cell. -/
theorem readFields_native (hd : S entity = d.toClass) {front back : List PersistentField}
    {f : PersistentField} {s : Slot} (hplain : f.isReference = false)
    (hholding : d.holding? f.name = some (.native s)) (htype : f.sqlType = s.carrier.sqlType)
    (hfields : ((front ++ f :: back).map PersistentField.name).Nodup) {position : Nat}
    {ownerId ownerId' : Value} {r r' : Record} (hr : (r.value? f.name).isSome = true)
    (h : readFields S loader entity row position (front ++ f :: back) ownerId r = .ok (ownerId', r')) :
    ∃ raw x, row.namedOrAt? f.column (position + front.length) = some raw ∧ s.pass raw = .ok x ∧
      r'.value? f.name = some x := by
  induction front generalizing position ownerId r with
  | nil =>
    obtain ⟨hnew, -⟩ := List.nodup_cons.1 hfields
    have hothers : ∀ g ∈ back, g.name ≠ f.name := fun g hg hname => hnew (hname ▸ List.mem_map_of_mem hg)
    obtain ⟨raw, v, _, r₁, hraw, hv, hplaced, h⟩ := readFields_cons.1 h
    rw [readFields_value? hd hothers h]
    refine ⟨raw, ?_⟩
    cases hplaced with
    | identifier _ hwrite | simple _ hwrite =>
      rw [hd] at hwrite
      obtain ⟨x, hx, rfl⟩ := map_eq_ok.1 ((Declaration.write_native hholding r v).symm.trans hwrite)
      rw [Slot.pass_of_cast (htype ▸ hv)] at hx
      obtain ⟨u, hu⟩ := Option.isSome_iff_exists.1 hr
      exact ⟨x, hraw, hx, by rw [Record.value?_setValue, if_pos rfl, hu, Option.map_some]⟩
    | reference hrole =>
      rw [PersistentField.isReference_iff.2 ⟨_, hrole⟩] at hplain
      cases hplain
  | cons g front ih =>
    obtain ⟨hnew, hfields⟩ := List.nodup_cons.1 hfields
    have hname : g.name ≠ f.name := fun hname => hnew (hname ▸ List.mem_map_of_mem (by simp))
    obtain ⟨_, _, _, r₁, -, -, hplaced, h⟩ := readFields_cons.1 h
    rw [List.length_cons, ← Nat.add_assoc, Nat.add_right_comm]
    exact ih hfields ((hplaced.value?_of_ne hd hname) ▸ hr) h

theorem bindAssociations_value? (hd : S entity = d.toClass) {ownerId : Value} {cell : CellId}
    {associations : List InverseAssociation} {r r' : Record}
    (h : bindAssociations S loader entity ownerId cell associations r = .ok r') (name : String) :
    r'.value? name = r.value? name := by
  induction associations generalizing cell r with
  | nil =>
    cases h
    rfl
  | cons a rest ih =>
    rw [bindAssociations] at h
    obtain ⟨b, -, h⟩ := bind_eq_ok.1 h
    obtain ⟨r₁, hbind, h⟩ := bind_eq_ok.1 h
    rw [hd] at hbind
    obtain ⟨-, l, -, rfl⟩ := Declaration.exists_setLink_of_bind hbind
    exact (ih h).trans rfl

end Hydration

/-- An instance that was made of a row holds natively what a reading of the row would have given. -/
theorem Heap.read_of_hydrate {S : Schema} {d : Declaration} {m : Metadata} {f : PersistentField} {s : Slot}
    (hd : S m.entity = d.toClass) (hm : S.metadata m.entity = .ok m) (hf : f ∈ m.fields)
    (hplain : f.isReference = false) (hholding : d.holding? f.name = some (.native s))
    (htype : f.sqlType = s.carrier.sqlType) {h h' : Heap} {loader : Loader} {row : Row} {i : InstanceId}
    (hh : h.hydrate S loader m.entity row = .ok (i, h')) :
    ∃ k x, row.namedOrAt? f.column (m.fields.idxOf f) = row.get? k ∧ row.getAs k s = .ok x ∧
      h'.read S i f.name = .ok (.value x) := by
  obtain ⟨m', record, hm', hrecord, hinstances, rfl⟩ := hydrate_eq_ok hh
  obtain rfl : m = m' := Except.ok.inj (hm.symm.trans hm')
  obtain ⟨front, back, hfields, hposition⟩ := exists_append_idxOf hf
  obtain ⟨fresh, ownerId, filled, hfresh, hfilled, hbound⟩ := Hydration.record_ok_iff.1 hrecord
  have hinitial : (fresh.value? f.name).isSome = true := by
    rw [hd, Declaration.toClass] at hfresh
    dsimp only at hfresh
    split at hfresh <;> cases hfresh
    obtain ⟨u, hu, -⟩ := d.holds_initial.natives f.name s hholding
    rw [hu]
    rfl
  have hnodup := (Mappings.sound_of_resolve hm).names_nodup
  rw [hfields] at hfilled hnodup
  obtain ⟨raw, x, hraw, hx, hheld⟩ :=
    Hydration.readFields_native hd hplain hholding htype hnodup hinitial hfilled
  rw [Nat.zero_add, ← hposition] at hraw
  obtain ⟨k, hk⟩ := Row.exists_get?_of_namedOrAt? hraw
  refine ⟨k, x, hraw.trans hk.symm, (Row.getAs_of_get? hk s).trans hx, ?_⟩
  rw [read_of_some (hinstances ▸ Array.getElem?_push_size), hd]
  refine Declaration.HoldsValue.read (.inr ⟨s, hholding⟩) ?_
  rw [Hydration.bindAssociations_value? hd hbound, hheld]

/-! ## The two ways agree -/

/-- What is to be said of a carrier and the declared type of its data. -/
structure Carrier.Agrees (c : Carrier) : Prop where
  ofValue_toValue : ∀ x : c.Data, c.ofValue (c.toValue x) = .ok x
  ofValueOption_toValueOption : ∀ x : Option c.Data, c.ofValueOption (c.toValueOption x) = .ok x
  /-- What is taken out of a value is taken out of its form as well, and refused likewise. -/
  ofValue_of_cast : ∀ v w : Value, v.cast c.sqlType = .ok w → c.ofValue w = c.ofValue v
  ofValueOption_of_cast : ∀ v w : Value, v.cast c.sqlType = .ok w → c.ofValueOption w = c.ofValueOption v
  /-- To write the form of a cell to a field is to write what is read of the cell. -/
  write_of_cast : ∀ (optional : Bool) (row : Row) (k : Nat) (v w : Value), row.get? k = some v →
    v.cast c.sqlType = .ok w → ∀ (d : Declaration) (name : String),
      d.holding? name = some (.native ⟨c, optional⟩) → ∀ r : Record,
        d.write r name w = (row.getAs k ⟨c, optional⟩).map (r.setValue name)
  /-- The fields of an instance that was made of a row hold what is read of the row. -/
  read_of_hydrate : ∀ (optional : Bool) (S : Schema) (d : Declaration) (m : Metadata)
    (f : PersistentField), S m.entity = d.toClass → S.metadata m.entity = .ok m → f ∈ m.fields →
      f.isReference = false → f.sqlType = c.sqlType → d.holding? f.name = some (.native ⟨c, optional⟩) →
        ∀ (h h' : Heap) (loader : Loader) (row : Row) (i : InstanceId),
          h.hydrate S loader m.entity row = .ok (i, h') →
            ∃ k x, row.namedOrAt? f.column (m.fields.idxOf f) = row.get? k ∧
              row.getAs k ⟨c, optional⟩ = .ok x ∧ h'.read S i f.name = .ok (.value x)
  /-- A string or bytes may be taken from a value that cannot be cast, but nothing else. -/
  exists_cast : c ≠ string → c ≠ bytes → ∀ v : Value, v ≠ .null → ∀ x : c.Data, c.ofValue v = .ok x →
    ∃ w, v.cast c.sqlType = .ok w
  exists_cast_of_option : c ≠ string → c ≠ bytes → ∀ (v : Value) (x : Option c.Data),
    c.ofValueOption v = .ok x → ∃ w, v.cast c.sqlType = .ok w
  none_iff : ∀ v : Value, c.ofValueOption v = .ok none ↔ v = .null

/-- **The two ways from a value to native data agree.** -/
theorem Carrier.agrees (c : Carrier) : c.Agrees where
  ofValue_toValue := c.ofValue_toValue
  ofValueOption_toValueOption := Slot.ofValueOption_toValueOption c
  ofValue_of_cast _ _ h := c.ofValue_of_cast h
  ofValueOption_of_cast _ _ h := c.ofValueOption_of_cast h
  write_of_cast optional row k v w hk hw d name hholding r := by
    rw [Declaration.write_native hholding, Slot.pass_of_cast hw, Row.getAs_of_get? hk]
  read_of_hydrate _ S d m f hd hm hf hplain htype hholding h h' loader row i hh :=
    Heap.read_of_hydrate hd hm hf hplain hholding htype hh
  exists_cast hstring hbytes v hv x hx := ⟨_, Carrier.exists_cast hstring hbytes hv hx⟩
  exists_cast_of_option hstring hbytes v x hx := by
    rw [ofValueOption] at hx
    split at hx
    · next hnull =>
      rw [(Value.isNull_iff v).1 hnull]
      exact ⟨_, Value.cast_null _⟩
    · next hnull =>
      obtain ⟨y, hy, -⟩ := map_eq_ok.1 hx
      exact ⟨_, Carrier.exists_cast hstring hbytes (fun h => hnull ((Value.isNull_iff v).2 h)) hy⟩
  none_iff _ := ofValueOption_eq_none

namespace Gauges

/-- A gauge has a number and, if it was read, a level, which is a small number. -/
def gauges : Declaration :=
  { entity := "Gauge", marked := true, table := none, constructionFault := none, bindable := true
    fields :=
      [⟨{ Field.simple "number" .bigInt with isId := true }, .anyValue⟩,
       ⟨Field.simple "level" .smallInt, .native ⟨.int16, true⟩⟩] }

def schema : Schema := Declaration.schema [gauges]

/-- The columns come in another order than the fields, and the level comes as a truth value. -/
def readOff : Row := .of ["level", "number"] [.bool true, .int 7]

/-- The column of the level. -/
def level : PersistentField := ⟨"level", "level", .smallInt, .simple⟩

/-- The level of the gauge is what is read of its cell.  A string is taken from a decimal, which no cast
makes a text. -/
theorem agrees_level :
    (∃ h' k x, Heap.empty.hydrate schema .outside "Gauge" readOff = .ok (0, h') ∧
      readOff.namedOrAt? "level" 1 = readOff.get? k ∧ readOff.getAs k ⟨.int16, true⟩ = .ok x ∧
      h'.read schema 0 "level" = .ok (.value x)) ∧
    readOff.getAs 0 ⟨.int16, true⟩ = .ok (.smallInt 1) ∧
    Carrier.string.ofValue (.decimal "0.5") = .ok "0.5" ∧
    ¬∃ w, (Value.decimal "0.5").cast .text = .ok w := by
  refine ⟨?_, by decide +kernel, by decide +kernel, ?_⟩
  · obtain ⟨m, hm⟩ := exists_of_isOk (show (schema.metadata "Gauge").isOk = true by decide +kernel)
    have hfields : (schema.metadata "Gauge").toOption.map Metadata.fields =
        some [⟨"number", "number", .bigInt, .identifier⟩, level] := by decide +kernel
    rw [hm] at hfields
    have hfields := Option.some.inj hfields
    have hentity : m.entity = "Gauge" := Mappings.entity_of_resolve hm
    obtain ⟨⟨i, h'⟩, hh⟩ := exists_of_isOk
      (show (Heap.empty.hydrate schema .outside "Gauge" readOff).isOk = true by decide +kernel)
    obtain ⟨-, -, -, -, -, rfl⟩ := Heap.hydrate_eq_ok hh
    obtain ⟨k, x, hk, hx, hread⟩ := Carrier.int16.agrees.read_of_hydrate true schema gauges m level
      (by rw [hentity]; rfl) (by rw [hentity]; exact hm) (by rw [hfields]; decide) rfl rfl rfl _ h'
      .outside readOff _ (by rw [hentity]; exact hh)
    rw [hfields] at hk
    exact ⟨h', k, x, hh, hk, hx, hread⟩
  · rintro ⟨w, hw⟩
    rcases Value.cast_eq_ok.1 hw with ⟨h, -⟩ | ⟨-, h⟩ <;> cases h

end Gauges

end EntitySession
