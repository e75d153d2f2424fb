import EntitySession.Row
import Mathlib.Data.List.Duplicate
import Mathlib.Data.List.Nodup
import Mathlib.Data.List.NodupEquivFin
import Mathlib.Data.List.Perm.Basic

/-!
# Finding a cell by the name of its column

A row is looked into by name, without regard to the case of letters, and of several columns with one name
the last one answers.  Where a name is there once there is only one to answer (`Heading.indexOf?_eq_some`).
So it does not matter in which order the columns come and in which letters their names are written: a row
that has certain values in certain columns (`Row.Has`) gives them all back (`Row.Has.named?`).
-/

set_option autoImplicit false

namespace EntitySession

/-- What is in a list once has one position. -/
theorem getElem_inj_of_count {α : Type} [DecidableEq α] {as : List α} {a : α} (h : as.count a = 1)
    {i j : Nat} (hi : i < as.length) (hj : j < as.length) (hai : as[i] = a) (haj : as[j] = a) : i = j := by
  have hnone : ∀ i j, (hi : i < as.length) → (hj : j < as.length) → as[i] = a → as[j] = a → ¬ i < j := by
    intro i j hi hj hai haj hij
    have htwice : as.Duplicate a :=
      List.duplicate_iff_exists_distinct_get.2 ⟨⟨i, hi⟩, ⟨j, hj⟩, hij, hai.symm, haj.symm⟩
    have hcount := List.duplicate_iff_two_le_count.1 htwice
    omega
  rcases Nat.lt_trichotomy i j with hlt | heq | hlt
  · exact absurd hlt (hnone i j hi hj hai haj)
  · exact heq
  · exact absurd hlt (hnone j i hj hi haj hai)

/-- Where a name is there once, without regard to its case, the column is found under it. -/
theorem Heading.indexOf?_eq_some {names : List String} {name : String}
    (honce : (names.map Text.fold).count (Text.fold name) = 1) {i : Nat} (hi : i < names.length)
    (hname : Text.fold names[i] = Text.fold name) : indexOf? ⟨names⟩ name = some i := by
  have hfind : names.reverse.findIdx? (fun n => Text.fold n == Text.fold name) =
      some (names.length - 1 - i) := by
    rw [List.findIdx?_eq_some_iff_getElem]
    refine ⟨by rw [List.length_reverse]; omega, ?_, fun j hj => ?_⟩
    · have hback : names.length - 1 - (names.length - 1 - i) = i := by omega
      simp only [List.getElem_reverse, hback, hname, BEq.rfl]
    · rw [List.getElem_reverse, beq_iff_eq]
      intro hsame
      have hindex : i = names.length - 1 - j := by
        refine getElem_inj_of_count honce (by rwa [List.length_map]) ?_ (by rwa [List.getElem_map])
          (by rwa [List.getElem_map])
        rw [List.length_map]
        omega
      omega
  rw [indexOf?, hfind, Option.map_some, Option.some.injEq]
  change names.length - 1 - (names.length - 1 - i) = i
  omega

/-- A row has values in columns, whatever the order of the columns and the case of their names. -/
structure Row.Has (row : Row) (columns : List String) (values : List Value) : Prop where
  size : row.heading.names.length = row.cells.length
  entries : (row.entries.map fun e => (Text.fold e.1, e.2)).Perm
    ((columns.zip values).map fun e => (Text.fold e.1, e.2))

namespace Row

variable {row : Row} {columns : List String} {values : List Value}

/-- Where a name is there once, without regard to its case, its cell is found under it. -/
theorem named?_of_mem {n name : String} {v : Value}
    (honce : (row.heading.names.map Text.fold).count (Text.fold name) = 1) (he : (n, v) ∈ row.entries)
    (hname : Text.fold n = Text.fold name) : row.named? name = some v := by
  obtain ⟨i, hi, he⟩ := List.getElem_of_mem he
  have hi : i < (row.heading.names.zip row.cells).length := hi
  rw [List.length_zip, Nat.lt_min] at hi
  rw [Prod.ext_iff] at he
  simp only [Row.entries, List.getElem_zip] at he
  obtain ⟨rfl, rfl⟩ := he
  rw [Row.named?, Heading.indexOf?_eq_some honce hi.1 hname]
  exact List.getElem?_eq_getElem hi.2

/-- What a row has in a column is found under the name of the column. -/
theorem Has.named? (h : row.Has columns values) (hlength : columns.length = values.length)
    (hcolumns : (columns.map Text.fold).Nodup) {column : String} {v : Value}
    (he : (column, v) ∈ columns.zip values) : row.named? column = some v := by
  obtain ⟨⟨n, u⟩, hmem, hnu⟩ := List.mem_map.1 (h.entries.mem_iff.2 (List.mem_map_of_mem he))
  obtain ⟨hname, rfl⟩ := Prod.mk.inj hnu
  have hnames : (row.heading.names.map Text.fold).Perm (columns.map Text.fold) := by
    have hentries : row.entries.map Prod.fst = row.heading.names := List.map_fst_zip (Nat.le_of_eq h.size)
    rw [← hentries, ← List.map_fst_zip (Nat.le_of_eq hlength), List.map_map, List.map_map]
    have hperm := h.entries.map Prod.fst
    rwa [List.map_map, List.map_map] at hperm
  have hcolumn : Text.fold column ∈ columns.map Text.fold := List.mem_map_of_mem (List.of_mem_zip he).1
  refine named?_of_mem ?_ hmem hname
  exact List.count_eq_one_of_mem (hnames.nodup_iff.2 hcolumns) (hnames.mem_iff.2 hcolumn)

end Row

end EntitySession
