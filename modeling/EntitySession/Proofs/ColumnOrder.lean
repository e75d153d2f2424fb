import EntitySession.Proofs.Restoring

/-!
# The order of the columns of a row does not matter

A field is looked up in a row by the name of its column, and where the row has no such name, by its position.
A row that has each column of a type once, in whatever letters, is never looked into by position, and other
columns that it has are never looked at.  So two rows that have the same in the columns of the type become the
same instance, or the same failure, wherever the columns stand and whatever stands between them
(`Heap.hydrate_eq_of_under`).

What becomes of such a row can then be said without the row being gone through: each field has got what is in
its own column, cast to its declared type, and the associations are bound for the value of the identifier
(`Hydration.MadeOf`).
-/

set_option autoImplicit false

namespace EntitySession

/-! ## What a row has in certain columns -/

namespace Row

/-- Every cell of a row has a name, and certain columns are there once each, in whatever letters. -/
structure Covers (row : Row) (columns : List String) : Prop where
  size : row.heading.names.length = row.cells.length
  once : ∀ column ∈ columns, (row.heading.names.map Text.fold).count (Text.fold column) = 1

/-- What a row has in certain columns, under their names without case, and in the order of the row.  Rows over
the same entries differ in nothing but this order, and entries under other names leave no trace. -/
def under (row : Row) (columns : List String) : List (String × Value) :=
  (row.entries.map fun e => (Text.fold e.1, e.2)).filter fun e => e.1 ∈ columns.map Text.fold

variable {row row' : Row} {columns : List String} {column : String} {v : Value}

theorem mem_under (hcolumn : column ∈ columns) : (Text.fold column, v) ∈ row.under columns ↔
    ∃ n, (n, v) ∈ row.entries ∧ Text.fold n = Text.fold column := by
  rw [under, List.mem_filter, List.mem_map]
  constructor
  · rintro ⟨⟨⟨n, u⟩, he, heq⟩, -⟩
    obtain ⟨hname, rfl⟩ := Prod.mk.inj heq
    exact ⟨n, he, hname⟩
  · rintro ⟨n, he, hname⟩
    exact ⟨⟨(n, v), he, by rw [hname]⟩, decide_eq_true (List.mem_map_of_mem hcolumn)⟩

/-- A row finds something in each column that it covers, and it is what stands there. -/
theorem Covers.exists_named? (h : row.Covers columns) (hcolumn : column ∈ columns) :
    ∃ v, row.named? column = some v ∧ (Text.fold column, v) ∈ row.under columns := by
  have honce := h.once column hcolumn
  have hmem : Text.fold column ∈ row.heading.names.map Text.fold :=
    List.count_pos_iff.1 (by rw [honce]; exact Nat.one_pos)
  obtain ⟨n, hn, hname⟩ := List.mem_map.1 hmem
  obtain ⟨i, hi, rfl⟩ := List.getElem_of_mem hn
  have hzip : i < (row.heading.names.zip row.cells).length := by
    rw [List.length_zip, ← h.size, Nat.min_self]
    exact hi
  have he := List.getElem_mem hzip
  rw [List.getElem_zip] at he
  exact ⟨_, named?_of_mem honce he hname, (mem_under hcolumn).2 ⟨_, he, hname⟩⟩

/-- What is found in a column is what stands there. -/
theorem Covers.named?_iff (h : row.Covers columns) (hcolumn : column ∈ columns) :
    row.named? column = some v ↔ ∃ n, (n, v) ∈ row.entries ∧ Text.fold n = Text.fold column := by
  constructor
  · intro hv
    obtain ⟨u, hu, hunder⟩ := h.exists_named? hcolumn
    obtain rfl : v = u := Option.some.inj (hv.symm.trans hu)
    exact (mem_under hcolumn).1 hunder
  · rintro ⟨n, he, hname⟩
    exact named?_of_mem (h.once column hcolumn) he hname

/-- Rows that have the same in certain columns find the same there. -/
theorem named?_eq_of_under (h : row.Covers columns) (h' : row'.Covers columns)
    (hunder : (row.under columns).Perm (row'.under columns)) (hcolumn : column ∈ columns) :
    ∃ v, row.named? column = some v ∧ row'.named? column = some v := by
  obtain ⟨v, hv, hmem⟩ := h.exists_named? hcolumn
  exact ⟨v, hv, (h'.named?_iff hcolumn).2 ((mem_under hcolumn).1 (hunder.mem_iff.1 hmem))⟩

end Row

/-! ## What becomes of a row -/

namespace Hydration

variable {S : Schema} {loader : Loader} {entity : String} {m : Metadata} {row row' : Row}

theorem cellOf_of_named? {f : PersistentField} {v : Value} (hv : row.named? f.column = some v)
    (position : Nat) : cellOf entity row position f = .ok v :=
  cellOf_eq_ok.2 (by rw [Row.namedOrAt?, hv, Option.some_or])

/-- Rows that find the same under the names of the columns are read in the same way. -/
theorem readFields_congr {fields : List PersistentField}
    (h : ∀ f ∈ fields, ∃ v, row.named? f.column = some v ∧ row'.named? f.column = some v)
    (position : Nat) (ownerId : Value) (r : Record) :
    readFields S loader entity row position fields ownerId r =
      readFields S loader entity row' position fields ownerId r := by
  induction fields generalizing position ownerId r with
  | nil => rfl
  | cons f fields ih =>
    obtain ⟨⟨v, hv, hv'⟩, hrest⟩ := List.forall_mem_cons.1 h
    simp only [readFields, cellOf_of_named? hv, cellOf_of_named? hv', ih hrest]

theorem record_congr (h : ∀ f ∈ m.fields, ∃ v, row.named? f.column = some v ∧
    row'.named? f.column = some v) (firstCell : CellId) :
    record S loader m row firstCell = record S loader m row' firstCell := by
  simp only [record, readFields_congr h]

/-- What a field gets of a row: what is in its own column, cast to the declared type. -/
def OwnValue (row : Row) (f : PersistentField) (v : Value) : Prop :=
  ∃ n raw, (n, raw) ∈ row.entries ∧ Text.fold n = Text.fold f.column ∧ raw.cast f.sqlType = .ok v

/-- Fields are given values, one after another; the identifier's is kept. -/
inductive Fills (S : Schema) (loader : Loader) (entity : String) :
    List PersistentField → List Value → Value → Record → Value → Record → Prop
  | nil (ownerId : Value) (r : Record) : Fills S loader entity [] [] ownerId r ownerId r
  | cons {f : PersistentField} {fields : List PersistentField} {v : Value} {values : List Value}
      {ownerId ownerId₁ ownerId' : Value} {r r₁ r' : Record}
      (first : Placed S loader entity f v ownerId r ownerId₁ r₁)
      (rest : Fills S loader entity fields values ownerId₁ r₁ ownerId' r') :
      Fills S loader entity (f :: fields) (v :: values) ownerId r ownerId' r'

/-- The value that is kept is that of the identifier, if there is one. -/
theorem Fills.owner {fields : List PersistentField} {values : List Value}
    {ownerId ownerId' : Value} {r r' : Record}
    (h : Fills S loader entity fields values ownerId r ownerId' r') :
    (∃ f, (f, ownerId') ∈ fields.zip values ∧ f.role = .identifier) ∨
      ownerId' = ownerId ∧ ∀ f ∈ fields, f.role ≠ .identifier := by
  induction h with
  | nil => exact .inr ⟨rfl, nofun⟩
  | cons first _ ih =>
    rcases ih with ⟨f, hmem, hrole⟩ | ⟨rfl, hothers⟩
    · exact .inl ⟨f, List.mem_cons_of_mem _ hmem, hrole⟩
    · cases first with
      | identifier hrole => exact .inl ⟨_, List.mem_cons_self, hrole⟩
      | simple hrole | reference hrole =>
        exact .inr ⟨rfl, List.forall_mem_cons.2 ⟨by rw [hrole]; nofun, hothers⟩⟩

/-- A row that covers the columns is read if every field gets a value of it and takes it. -/
theorem readFields_eq_ok {columns : List String} (hrow : row.Covers columns)
    {fields : List PersistentField} (hfields : ∀ f ∈ fields, f.column ∈ columns) {position : Nat}
    {ownerId ownerId' : Value} {r r' : Record} :
    readFields S loader entity row position fields ownerId r = .ok (ownerId', r') ↔
      ∃ values, List.Forall₂ (OwnValue row) fields values ∧
        Fills S loader entity fields values ownerId r ownerId' r' := by
  induction fields generalizing position ownerId r with
  | nil =>
    constructor
    · intro h
      cases h
      exact ⟨[], .nil, .nil _ _⟩
    · rintro ⟨_, -, hfills⟩
      cases hfills
      rfl
  | cons f fields ih =>
    obtain ⟨hf, hfields⟩ := List.forall_mem_cons.1 hfields
    have hcell (raw : Value) : row.namedOrAt? f.column position = some raw ↔
        ∃ n, (n, raw) ∈ row.entries ∧ Text.fold n = Text.fold f.column := by
      obtain ⟨v, hv, -⟩ := hrow.exists_named? hf
      rw [← hrow.named?_iff hf, Row.namedOrAt?, hv, Option.some_or]
    rw [readFields_cons]
    constructor
    · rintro ⟨raw, v, _, _, hraw, hv, hplaced, h⟩
      obtain ⟨values, hvalues, hfills⟩ := (ih hfields).1 h
      obtain ⟨n, he, hname⟩ := (hcell raw).1 hraw
      exact ⟨v :: values, .cons ⟨n, raw, he, hname, hv⟩ hvalues, .cons hplaced hfills⟩
    · rintro ⟨_, hvalues, hfills⟩
      cases hfills with
      | cons hplaced hfills =>
        cases hvalues with
        | cons hv hvalues =>
          obtain ⟨n, raw, he, hname, hv⟩ := hv
          exact ⟨raw, _, _, _, (hcell raw).2 ⟨n, he, hname⟩, hv, hplaced,
            (ih hfields).2 ⟨_, hvalues, hfills⟩⟩

/-- A record is made of a row: each field has got the value of its own column, and the associations are bound
for that of the identifier. -/
inductive MadeOf (S : Schema) (loader : Loader) (m : Metadata) (row : Row) (firstCell : CellId)
    (record : Record) : Prop
  | mk {values : List Value} {fresh filled : Record} {ownerId : Value}
      (hfresh : (S m.entity).construct = .ok fresh)
      (hvalues : List.Forall₂ (OwnValue row) m.fields values)
      (hfills : Fills S loader m.entity m.fields values .null fresh ownerId filled)
      (hid : (m.identifier, ownerId) ∈ m.fields.zip values)
      (hbound : bindAssociations S loader m.entity ownerId firstCell m.associations filled = .ok record) :
      MadeOf S loader m row firstCell record

theorem record_eq_ok (hs : m.Sound) (hrow : row.Covers m.columnNames) {firstCell : CellId}
    {r : Record} : record S loader m row firstCell = .ok r ↔ MadeOf S loader m row firstCell r := by
  have hcolumns : ∀ f ∈ m.fields, f.column ∈ m.columnNames := fun f hf => List.mem_map_of_mem hf
  rw [record_ok_iff]
  constructor
  · rintro ⟨fresh, ownerId, filled, hfresh, hfilled, hbound⟩
    obtain ⟨values, hvalues, hfills⟩ := (readFields_eq_ok hrow hcolumns).1 hfilled
    refine .mk hfresh hvalues hfills ?_ hbound
    rcases hfills.owner with ⟨f, hmem, hrole⟩ | ⟨-, hothers⟩
    · rwa [← hs.eq_identifier f (List.of_mem_zip hmem).1 hrole]
    · exact absurd hs.identifier_role (hothers _ m.identifier_mem)
  · rintro ⟨hfresh, hvalues, hfills, -, hbound⟩
    exact ⟨_, _, _, hfresh, (readFields_eq_ok hrow hcolumns).2 ⟨_, hvalues, hfills⟩, hbound⟩

end Hydration

namespace Heap

variable {S : Schema} {entity : String} {m : Metadata} {row row' : Row}

/-- The instance that a row becomes is added to those that are there. -/
theorem hydrate_eq_map (hm : S.metadata entity = .ok m) (loader : Loader) (row : Row) (h : Heap) :
    h.hydrate S loader entity row = (h.reserve m.associations.length).2.add entity <$>
      Hydration.record S loader m row h.cells.size := by
  rw [hydrate, hm]
  change (do
    let record ← Hydration.record S loader m row h.cells.size
    .ok ((h.reserve m.associations.length).2.add entity record)) = _
  rw [map_eq_pure_bind]
  rfl

/-- **The order of columns does not matter.**  Two rows that have the columns of a type once each, and the same
in them, become the same; and an instance that they become has the value of its own column in each field, and
associations of its own identifier. -/
theorem hydrate_eq_of_under (hm : S.metadata entity = .ok m) (hrow : row.Covers m.columnNames)
    (hrow' : row'.Covers m.columnNames)
    (hunder : (row.under m.columnNames).Perm (row'.under m.columnNames)) (loader : Loader) (h : Heap) :
    h.hydrate S loader entity row = h.hydrate S loader entity row' ∧
      ∀ i h', h.hydrate S loader entity row = .ok (i, h') ↔
        ∃ record, Hydration.MadeOf S loader m row h.cells.size record ∧
          (h.reserve m.associations.length).2.add entity record = (i, h') := by
  have hs := Mappings.sound_of_resolve hm
  constructor
  · rw [hydrate_eq_map hm, hydrate_eq_map hm, Hydration.record_congr fun f hf =>
      Row.named?_eq_of_under hrow hrow' hunder (List.mem_map_of_mem hf)]
  · intro i h'
    rw [hydrate_eq_map hm, map_eq_ok]
    simp only [Hydration.record_eq_ok hs hrow]

end Heap

/-! ### What is told of a person -/

namespace Keepers

/-- A person, with a guide and a favourite animal. -/
def told : Row := .of ["person_no", "guide_id", "favourite_tag"] [.bigInt 7, .bigInt 3, .text "rex"]

/-- The same in another order, in other letters and among other things. -/
def retold : Row :=
  .of ["weather", "FAVOURITE_TAG", "Person_No", "mood", "guide_id"]
    [.text "fair", .text "rex", .bigInt 7, .null, .bigInt 3]

theorem covers_told : told.Covers ["person_no", "guide_id", "favourite_tag"] where
  size := by decide
  once := by decide +kernel

theorem covers_retold : retold.Covers ["person_no", "guide_id", "favourite_tag"] where
  size := by decide
  once := by
    have hfolded : retold.heading.names.map Text.fold =
      ["weather", "favourite_tag", "person_no", "mood", "guide_id"] := by decide +kernel
    rw [hfolded]
    decide +kernel

theorem under_told : (told.under ["person_no", "guide_id", "favourite_tag"]).Perm
    (retold.under ["person_no", "guide_id", "favourite_tag"]) := by
  have htold : (told.entries.map fun e => (Text.fold e.1, e.2)) =
      [("person_no", .bigInt 7), ("guide_id", .bigInt 3), ("favourite_tag", .text "rex")] := by
    decide +kernel
  have hretold : (retold.entries.map fun e => (Text.fold e.1, e.2)) =
      [("weather", .text "fair"), ("favourite_tag", .text "rex"), ("person_no", .bigInt 7),
        ("mood", .null), ("guide_id", .bigInt 3)] := by
    decide +kernel
  rw [Row.under, Row.under, htold, hretold]
  decide +kernel

/-- The person is the same, and has the number that was told. -/
theorem hydrate_eq_retold : folk.hydrate schema .outside "Person" told =
      folk.hydrate schema .outside "Person" retold ∧
    ∃ i h', folk.hydrate schema .outside "Person" told = .ok (i, h') ∧
      (h'.id schema i).toOption = some (.bigInt 7) := by
  obtain ⟨table, hm⟩ := metadata_person
  have hid : ((folk.hydrate schema .outside "Person" told).toOption.bind fun out =>
      (out.2.id schema out.1).toOption) = some (.bigInt 7) := by decide +kernel
  obtain ⟨⟨i, h'⟩, hout, hid⟩ := Option.bind_eq_some_iff.1 hid
  exact ⟨(Heap.hydrate_eq_of_under hm covers_told covers_retold under_told .outside folk).1,
    i, h', ok_of_toOption hout, hid⟩

end Keepers

end EntitySession
