import EntitySession.Proofs.Resolution
import EntitySession.Proofs.Utterances

/-!
# What statements are made of

A statement is a template with names put in, and nothing else can be put in (`Statement`).  What remains
to be seen is where the names come from.  The statements that are composed for a set of mappings
(`Statement.Composed`) take all of them from metadata, of one type or of two that an association leads
between; no value of any instance has a part in them.

All of these names are identifiers, that is, a letter or an underscore and then letters, digits and
underscores (`IsName`).  For most of them this was looked at when their type was resolved.  The join column
by which the targets of an association are selected was not: it is taken over from the mapping of the
target.  But the statement can be composed only if the target resolves, and then the column is one of those
of the target (`Mappings.foreignKey_mem_columnNames`).

Identifiers bring no question marks with them, so a statement has as many of these as it takes values
(`Statement.marks_render`).
-/

set_option autoImplicit false

namespace EntitySession

/-! ## Names -/

/-- A letter from `A` to `Z`, in either case, or an underscore. -/
def IsLetter (c : Char) : Prop := 'a' ≤ c ∧ c ≤ 'z' ∨ 'A' ≤ c ∧ c ≤ 'Z' ∨ c = '_'

def IsDigit (c : Char) : Prop := '0' ≤ c ∧ c ≤ '9'

/-- A letter, and then letters and digits. -/
def IsName (name : String) : Prop :=
  ∃ c rest, name.toList = c :: rest ∧ IsLetter c ∧ ∀ d ∈ rest, IsLetter d ∨ IsDigit d

theorem isLetter_iff {c : Char} : IsLetter c ↔ (c.isAlpha || c == '_') = true := by
  have hupper : c.isUpper = true ↔ 'A' ≤ c ∧ c ≤ 'Z' := decide_eq_true_iff
  have hlower : c.isLower = true ↔ 'a' ≤ c ∧ c ≤ 'z' :=
    Bool.and_eq_true_iff.trans (and_congr decide_eq_true_iff decide_eq_true_iff)
  have halpha : c.isAlpha = true ↔ c.isUpper = true ∨ c.isLower = true := Bool.or_eq_true_iff
  rw [IsLetter, Bool.or_eq_true, beq_iff_eq, halpha, hupper, hlower]
  tauto

theorem isLetter_or_isDigit_iff {c : Char} :
    IsLetter c ∨ IsDigit c ↔ (c.isAlphanum || c == '_') = true := by
  rw [isLetter_iff]
  simp only [IsDigit, Char.isAlphanum, Char.isDigit, Bool.or_eq_true, Bool.and_eq_true,
    decide_eq_true_eq]
  tauto

theorem isName_iff {name : String} : IsName name ↔ isIdentifier name = true := by
  rw [IsName, isIdentifier]
  cases name.toList with
  | nil => simp
  | cons c rest =>
    simp only [List.cons.injEq, Bool.and_eq_true, List.all_eq_true, ← isLetter_iff,
      ← isLetter_or_isDigit_iff]
    constructor
    · rintro ⟨_, _, ⟨rfl, rfl⟩, hc, hrest⟩
      exact ⟨hc, hrest⟩
    · rintro ⟨hc, hrest⟩
      exact ⟨c, rest, ⟨rfl, rfl⟩, hc, hrest⟩

/-! ## Question marks -/

/-- How many question marks a text has. -/
def marks (text : String) : Nat := text.toList.count '?'

theorem marks_append (s t : String) : marks (s ++ t) = marks s + marks t := by
  rw [marks, String.toList_append, List.count_append]
  rfl

theorem IsName.marks_eq_zero {name : String} (h : IsName name) : marks name = 0 := by
  obtain ⟨c, rest, hname, hc, hrest⟩ := h
  have hmark : ¬(IsLetter '?' ∨ IsDigit '?') := by
    unfold IsLetter IsDigit
    decide
  rw [marks, hname, List.count_eq_zero, List.mem_cons]
  rintro (rfl | hmem)
  · exact hmark (.inl hc)
  · exact hmark (hrest _ hmem)

namespace Statement

/-- What is put in a list, with commas between, brings its question marks with it. -/
theorem marks_commas_map {f : String → String} {k : Nat} {names : List String}
    (h : ∀ n ∈ names, marks (f n) = k) : marks (commas (names.map f)) = names.length * k := by
  induction names with
  | nil => exact (Nat.zero_mul k).symm
  | cons n names ih =>
    obtain ⟨hn, hnames⟩ := List.forall_mem_cons.1 h
    have hrest := ih hnames
    cases names with
    | nil => simpa [commas] using hn
    | cons n' names =>
      have hlength : (n :: n' :: names).length * k = k + (n' :: names).length * k := by
        rw [List.length_cons, Nat.succ_mul, Nat.add_comm]
      rw [commas, List.map_cons] at hrest ⊢
      rw [List.map_cons, String.intercalate_cons_cons, marks_append, marks_append, hn, hrest,
        show marks ", " = 0 by decide, Nat.add_zero, hlength]

theorem marks_commas {names : List String} (h : ∀ n ∈ names, IsName n) : marks (commas names) = 0 := by
  have hzero := marks_commas_map (f := id) (k := 0) fun n hn => (h n hn).marks_eq_zero
  rwa [List.map_id] at hzero

/-- The words of the templates; a value is marked in two of them. -/
theorem marks_words :
    (marks "SELECT " = 0 ∧ marks " FROM " = 0 ∧ marks " WHERE " = 0 ∧ marks " t INNER JOIN " = 0 ∧
      marks " j ON t." = 0 ∧ marks " = j." = 0 ∧ marks " WHERE j." = 0 ∧ marks "t." = 0) ∧
    (marks "INSERT INTO " = 0 ∧ marks " (" = 0 ∧ marks ") VALUES (" = 0 ∧ marks ")" = 0) ∧
    (marks "UPDATE " = 0 ∧ marks " SET " = 0 ∧ marks "DELETE FROM " = 0) ∧
    marks "?" = 1 ∧ marks " = ?" = 1 ∧ marks " = ?;" = 1 := by
  decide

/-- A statement whose names are proper has a question mark for each value that it takes. -/
theorem marks_render {st : Statement} (h : ∀ n ∈ st.names, IsName n) :
    marks st.render = st.placeholders := by
  cases st with
  | select columns table column =>
    simp only [names, List.forall_mem_cons] at h
    obtain ⟨htable, hcolumn, hcolumns⟩ := h
    have hrender : (select columns table column).render =
        "SELECT " ++ commas columns ++ " FROM " ++ table ++ " WHERE " ++ column ++ " = ?" := rfl
    simp only [hrender, placeholders, marks_append, marks_commas hcolumns, htable.marks_eq_zero,
      hcolumn.marks_eq_zero, marks_words]
  | selectLinked columns table links idColumn inverseColumn joinColumn =>
    simp only [names, List.forall_mem_cons] at h
    obtain ⟨htable, hlinks, hid, hinverse, hjoin, hcolumns⟩ := h
    have hcommas : marks (commas (columns.map fun c => "t." ++ c)) = columns.length * 0 :=
      marks_commas_map fun c hc => by
        simp only [marks_append, (hcolumns c hc).marks_eq_zero, marks_words]
    have hrender : (selectLinked columns table links idColumn inverseColumn joinColumn).render =
        "SELECT " ++ commas (columns.map fun c => "t." ++ c) ++ " FROM " ++ table ++ " t INNER JOIN "
          ++ links ++ " j ON t." ++ idColumn ++ " = j." ++ inverseColumn ++ " WHERE j." ++ joinColumn
          ++ " = ?" := rfl
    simp only [hrender, placeholders, marks_append, hcommas, htable.marks_eq_zero, hlinks.marks_eq_zero,
      hid.marks_eq_zero, hinverse.marks_eq_zero, hjoin.marks_eq_zero, marks_words, Nat.mul_zero]
  | insert table columns =>
    simp only [names, List.forall_mem_cons] at h
    obtain ⟨htable, hcolumns⟩ := h
    have hcommas : marks (commas (columns.map fun _ => "?")) = columns.length * 1 :=
      marks_commas_map fun _ _ => marks_words.2.2.2.1
    have hrender : (insert table columns).render = "INSERT INTO " ++ table ++ " (" ++ commas columns
        ++ ") VALUES (" ++ commas (columns.map fun _ => "?") ++ ")" := rfl
    simp only [hrender, placeholders, marks_append, marks_commas hcolumns, hcommas, htable.marks_eq_zero,
      marks_words, Nat.zero_add, Nat.mul_one, Nat.add_zero]
  | update table columns idColumn =>
    simp only [names, List.forall_mem_cons] at h
    obtain ⟨htable, hid, hcolumns⟩ := h
    have hcommas : marks (commas (columns.map fun c => c ++ " = ?")) = columns.length * 1 :=
      marks_commas_map fun c hc => by
        simp only [marks_append, (hcolumns c hc).marks_eq_zero, marks_words]
    have hrender : (update table columns idColumn).render = "UPDATE " ++ table ++ " SET "
        ++ commas (columns.map fun c => c ++ " = ?") ++ " WHERE " ++ idColumn ++ " = ?;" := rfl
    simp only [hrender, placeholders, marks_append, hcommas, htable.marks_eq_zero, hid.marks_eq_zero,
      marks_words, Nat.zero_add, Nat.mul_one, Nat.add_zero]
  | delete table idColumn =>
    simp only [names, List.forall_mem_cons] at h
    obtain ⟨htable, hid, -⟩ := h
    have hrender : (delete table idColumn).render =
        "DELETE FROM " ++ table ++ " WHERE " ++ idColumn ++ " = ?" := rfl
    simp only [hrender, placeholders, marks_append, htable.marks_eq_zero, hid.marks_eq_zero, marks_words]

end Statement

/-! ## Statements for mappings -/

/-- The statements that are composed for some mappings. -/
inductive Statement.Composed (ms : Mappings) : Statement → Prop
  | found {entity : String} {m : Metadata} (hm : ms.resolve entity = .ok m) :
      Composed ms (Gateway.selectBy m m.identifier.column)
  | associated {entity : String} {m m' : Metadata} {a : InverseAssociation}
      (hm : ms.resolve entity = .ok m) (ha : a ∈ m.associations) (hm' : ms.resolve a.target = .ok m') :
      Composed ms (Gateway.selectFor m' a.source)
  | inserted {entity : String} {m : Metadata} (hm : ms.resolve entity = .ok m) :
      Composed ms (.insert m.table.name m.columnNames)
  /-- The database has to generate the identifier. -/
  | insertedAnew {entity : String} {m : Metadata} (hm : ms.resolve entity = .ok m) :
      Composed ms (.insert m.table.name (m.nonIdFields.map PersistentField.column))
  | updated {entity : String} {m : Metadata} (hm : ms.resolve entity = .ok m) :
      Composed ms (.update m.table.name
        ((m.simpleFields ++ m.references.map Prod.fst).map PersistentField.column) m.identifier.column)
  | deleted {entity : String} {m : Metadata} (hm : ms.resolve entity = .ok m) :
      Composed ms (.delete m.table.name m.identifier.column)

namespace Statement

variable {ms : Mappings} {entity : String} {m : Metadata}

theorem isName_table (hm : ms.resolve entity = .ok m) : IsName m.table.name :=
  isName_iff.2 (Mappings.named_of_resolve hm).table

theorem isName_columnNames (hm : ms.resolve entity = .ok m) : ∀ n ∈ m.columnNames, IsName n :=
  fun n hn => isName_iff.2 ((Mappings.named_of_resolve hm).columns n hn)

/-- The columns of some of the fields of a type are called as columns may be. -/
theorem isName_columns (hm : ms.resolve entity = .ok m) {fields : List PersistentField}
    (hfields : fields ⊆ m.fields) : ∀ n ∈ fields.map PersistentField.column, IsName n := by
  intro n hn
  obtain ⟨f, hf, rfl⟩ := List.mem_map.1 hn
  exact isName_columnNames hm _ (List.mem_map_of_mem (hfields hf))

theorem isName_identifier (hm : ms.resolve entity = .ok m) : IsName m.identifier.column :=
  isName_columnNames hm _ (List.mem_map_of_mem m.identifier_mem)

/-- The targets of an association are selected by names of their own and of the join table, and by a
column of theirs that the owner names. -/
theorem isName_selectFor {m' : Metadata} {a : InverseAssociation} (hm : ms.resolve entity = .ok m)
    (ha : a ∈ m.associations) (hm' : ms.resolve a.target = .ok m') :
    ∀ n ∈ (Gateway.selectFor m' a.source).names, IsName n := by
  cases hsource : a.source with
  | foreignKey column =>
    have hcolumn := isName_columnNames hm' _ (Mappings.foreignKey_mem_columnNames hm ha hsource hm')
    exact List.forall_mem_cons.2 ⟨isName_table hm', List.forall_mem_cons.2
      ⟨hcolumn, isName_columnNames hm'⟩⟩
  | joinTable links =>
    obtain ⟨hlinks, hjoin, hinverse⟩ := (Mappings.named_of_resolve hm).links a ha links hsource
    simp only [Gateway.selectFor, names, List.forall_mem_cons]
    exact ⟨isName_table hm', isName_iff.2 hlinks, isName_identifier hm', isName_iff.2 hinverse,
      isName_iff.2 hjoin, isName_columnNames hm'⟩

/-- Statements that are composed for mappings have identifiers for names. -/
theorem Composed.isName {st : Statement} (h : st.Composed ms) : ∀ n ∈ st.names, IsName n := by
  cases h with
  | found hm =>
    simp only [Gateway.selectBy, names, List.forall_mem_cons]
    exact ⟨isName_table hm, isName_identifier hm, isName_columnNames hm⟩
  | associated hm ha hm' => exact isName_selectFor hm ha hm'
  | inserted hm => exact List.forall_mem_cons.2 ⟨isName_table hm, isName_columnNames hm⟩
  | @insertedAnew _ m hm =>
    exact List.forall_mem_cons.2 ⟨isName_table hm, isName_columns hm m.nonIdFields_sublist.subset⟩
  | @updated _ m hm =>
    simp only [names, List.forall_mem_cons]
    exact ⟨isName_table hm, isName_identifier hm, isName_columns hm m.written_subset⟩
  | deleted hm =>
    simp only [names, List.forall_mem_cons]
    exact ⟨isName_table hm, isName_identifier hm, List.forall_mem_nil _⟩

end Statement

end EntitySession
