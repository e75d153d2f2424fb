import EntitySession.Proofs.Casts
import EntitySession.Sqlite.Cell

/-!
# Storing a value and reading it back

A mapped field has one of eight types, and SQLite keeps five classes of cells.  A value is stored by
`Cell.ofValue`, read by `Cell.toValue` and brought back to the type of its field by `Value.cast`, so
the way back is taken in two steps that know nothing of each other: reading guesses the width of a
whole number, and the cast narrows or widens the guess.

The two fit together for the whole numbers because reading and casting agree on what a number is
worth (`Cell.asInt?_toValue`), and a number that was stored from a width lies in its range
(`Value.smallIntOf?_toInt` and its siblings).  Doubles, texts and blobs are read as what they were.
Decimals are not: they are stored as texts, and a cast to a decimal takes no text, so no stored decimal
can be read into the field that it came from.  `Cell.cast_toValue_ofValue` says all of this at once.
-/

set_option autoImplicit false

namespace EntitySession

namespace Value

/-- The type that a kind of values belongs to.  NULL belongs to every type. -/
def ownType? : Value → Option SqlType
  | null => none
  | bool _ => some .boolean
  | smallInt _ => some .smallInt
  | int _ => some .integer
  | bigInt _ => some .bigInt
  | double _ => some .double
  | decimal _ => some .decimal
  | text _ => some .text
  | bytes _ => some .blob

/-! ## Numbers in the range of their width -/

theorem smallIntOf?_toInt (n : Int16) : smallIntOf? n.toInt = some (smallInt n) := by
  have hlow : -32768 ≤ n.toInt := Int16.le_toInt n
  have hhigh : n.toInt < 32768 := Int16.toInt_lt n
  rw [smallIntOf?, if_pos ⟨hlow, hhigh⟩, Int16.ofInt_toInt]

theorem intOf?_toInt (n : Int32) : intOf? n.toInt = some (int n) := by
  have hlow : -2147483648 ≤ n.toInt := Int32.le_toInt n
  have hhigh : n.toInt < 2147483648 := Int32.toInt_lt n
  rw [intOf?, if_pos ⟨hlow, hhigh⟩, Int32.ofInt_toInt]

theorem bigIntOf?_toInt (n : Int64) : bigIntOf? n.toInt = some (bigInt n) := by
  have hlow : -9223372036854775808 ≤ n.toInt := Int64.le_toInt n
  have hhigh : n.toInt < 9223372036854775808 := Int64.toInt_lt n
  rw [bigIntOf?, if_pos ⟨hlow, hhigh⟩, Int64.ofInt_toInt]

/-- A value of its own type stays as it is, and so does NULL. -/
theorem cast_of_ownType {t : SqlType} {v : Value} (hv : v = null ∨ v.ownType? = some t) :
    v.cast t = .ok v := by
  rcases hv with rfl | hv
  · exact cast_null t
  cases v with
  | smallInt n =>
    cases hv
    exact cast_eq_ok.2 (.inr ⟨nofun, smallIntOf?_toInt n⟩)
  | int n =>
    cases hv
    exact cast_eq_ok.2 (.inr ⟨nofun, intOf?_toInt n⟩)
  | bigInt n =>
    cases hv
    exact cast_eq_ok.2 (.inr ⟨nofun, bigIntOf?_toInt n⟩)
  | null => cases hv
  | bool _ | double _ | decimal _ | text _ | bytes _ =>
    cases hv
    rfl

end Value

namespace Sqlite.Cell

variable {t : SqlType} {v w : Value}

/-! ## Reading a whole number -/

/-- Whichever width is guessed, the number that is read is the one that was stored. -/
theorem asInt?_toValue (n : Int64) : (integer n).toValue.asInt? = some n.toInt := by
  rw [toValue]
  split
  · next hn =>
    have hread : (Int32.ofInt n.toInt).toInt = n.toInt :=
      Int32.toInt_ofInt_of_le (by omega) (by omega)
    rw [Value.asInt?, hread]
  · rfl

theorem toValue_integer_ne_null (n : Int64) : (integer n).toValue ≠ .null := by
  rw [toValue]
  split <;> simp

/-- A cell that holds a whole number is cast to what its number is in the declared width. -/
theorem cast_toValue_integer {n : Int64} (hform : (integer n).toValue.castTo? t = some w) :
    (integer n).toValue.cast t = .ok w :=
  Value.cast_eq_ok.2 (.inr ⟨toValue_integer_ne_null n, hform⟩)

theorem cast_smallInt (n : Int16) :
    (ofValue (.smallInt n)).toValue.cast .smallInt = .ok (.smallInt n) := by
  apply cast_toValue_integer
  have hworth : n.toInt64.toInt = n.toInt := Int16.toInt_toInt64 n
  rw [Value.castTo?, asInt?_toValue, hworth, Option.bind_some, Value.smallIntOf?_toInt]

theorem cast_int (n : Int32) : (ofValue (.int n)).toValue.cast .integer = .ok (.int n) := by
  apply cast_toValue_integer
  have hworth : n.toInt64.toInt = n.toInt := Int32.toInt_toInt64 n
  rw [Value.castTo?, asInt?_toValue, hworth, Option.bind_some, Value.intOf?_toInt]

theorem cast_bigInt (n : Int64) : (ofValue (.bigInt n)).toValue.cast .bigInt = .ok (.bigInt n) := by
  apply cast_toValue_integer
  rw [Value.castTo?, asInt?_toValue, Option.bind_some, Value.bigIntOf?_toInt]

/-- A truth value is stored as 0 or 1, and only 0 is read as false. -/
theorem cast_bool (b : Bool) : (ofValue (.bool b)).toValue.cast .boolean = .ok (.bool b) := by
  cases b <;> rfl

/-! ## Reading a double or a decimal -/

theorem cast_double {x : Binary64} (hx : x.isNaN = false) :
    (ofValue (.double x)).toValue.cast .double = .ok (.double x) := by
  rw [ofValue, if_neg (by simp [hx])]
  rfl

theorem cast_nan {x : Binary64} (hx : x.isNaN = true) :
    (ofValue (.double x)).toValue.cast t = .ok .null := by
  rw [ofValue, if_pos hx, toValue, Value.cast_null]

/-- A decimal is read as a text, and a text is no form of a decimal. -/
theorem cast_decimal (s : String) :
    (ofValue (.decimal s)).toValue.cast .decimal =
      .error (Fault.conversion "DECIMAL" ("TEXT ('" ++ s ++ "')") none).error := by
  have hopen : "TEXT ('" = "TEXT" ++ " (" ++ "'" := by decide
  have hclose : "')" = "'" ++ ")" := by decide
  have hshown : "TEXT" ++ " (" ++ ("'" ++ s ++ "'") ++ ")" = "TEXT ('" ++ s ++ "')" := by
    rw [hopen, hclose]
    simp only [String.append_assoc]
  rw [← hshown]
  rfl

/-! ## Every type -/

/-- Apart from decimals and NaNs, a value is restored in the type that it belongs to. -/
theorem cast_own (ht : v.ownType? = some t) (hdecimal : ∀ s, v ≠ .decimal s)
    (hnan : ∀ x, v = .double x → x.isNaN = false) : (ofValue v).toValue.cast t = .ok v := by
  cases v with
  | null => cases ht
  | bool b => cases ht; exact cast_bool b
  | smallInt n => cases ht; exact cast_smallInt n
  | int n => cases ht; exact cast_int n
  | bigInt n => cases ht; exact cast_bigInt n
  | double x => cases ht; exact cast_double (hnan x rfl)
  | decimal s => exact absurd rfl (hdecimal s)
  | text s => cases ht; rfl
  | bytes b => cases ht; rfl

/-- NULL and a value of the type's own kind come back unchanged if they are neither a decimal nor a
NaN.  A decimal comes back as an error, a NaN as NULL. -/
theorem cast_toValue_ofValue (hv : v = .null ∨ v.ownType? = some t) :
    ((∀ s, v ≠ .decimal s) → (∀ x, v = .double x → x.isNaN = false) →
      (ofValue v).toValue.cast t = .ok v) ∧
    (∀ s, v = .decimal s → (ofValue v).toValue.cast t =
      .error (Fault.conversion "DECIMAL" ("TEXT ('" ++ s ++ "')") none).error) ∧
    (∀ x, v = .double x → x.isNaN = true → (ofValue v).toValue.cast t = .ok .null) := by
  refine ⟨fun hdecimal hnan => ?_, ?_, ?_⟩
  · rcases hv with rfl | ht
    · exact Value.cast_null t
    · exact cast_own ht hdecimal hnan
  · rintro s rfl
    have ht : some SqlType.decimal = some t := hv.resolve_left (by simp)
    cases ht
    exact cast_decimal s
  · rintro x rfl hx
    exact cast_nan hx

end Sqlite.Cell

namespace Gauges

open Sqlite

/-- The numbers at an end of their width or of a narrower one. -/
theorem extremes_restored :
    (Value.smallInt (-32768)).ownType? = some .smallInt ∧
      (Cell.ofValue (.smallInt (-32768))).toValue.cast .smallInt = .ok (.smallInt (-32768)) ∧
    (Value.bigInt 2147483647).ownType? = some .bigInt ∧
      (Cell.ofValue (.bigInt 2147483647)).toValue = .int 2147483647 ∧
      (Cell.ofValue (.bigInt 2147483647)).toValue.cast .bigInt = .ok (.bigInt 2147483647) := by
  have hsmall : (Value.smallInt (-32768)).ownType? = some .smallInt := by decide
  have hbig : (Value.bigInt 2147483647).ownType? = some .bigInt := by decide
  refine ⟨hsmall, ?_, hbig, by decide +kernel, ?_⟩
  · exact (Cell.cast_toValue_ofValue (.inr hsmall)).1 (by simp) (by simp)
  · exact (Cell.cast_toValue_ofValue (.inr hbig)).1 (by simp) (by simp)

/-- A price is stored and cannot be read back. -/
theorem decimal_unreadable :
    (Value.decimal "12.50").ownType? = some .decimal ∧
    ¬∃ w, (Cell.ofValue (.decimal "12.50")).toValue.cast .decimal = .ok w ∧
      (w == .decimal "12.50") = true := by
  refine ⟨by decide, ?_⟩
  rintro ⟨w, hw, -⟩
  rw [Cell.cast_decimal] at hw
  cases hw

end Gauges

end EntitySession
