import EntitySession.Proofs.Results
import EntitySession.Value.Cast

/-!
# The form of a declared type

What a cast yields has the form of the type, so casting it again changes nothing (`Value.cast_cast`).
A value that has the form of a type already is what everything that is the same key is cast to
(`Value.beq_of_cast`): two values that are the same key differ in nothing but the form of a double.
-/

set_option autoImplicit false

namespace EntitySession.Value

variable {t : SqlType} {u v w : Value}

theorem cast_eq_ok : u.cast t = .ok v ↔ u = null ∧ v = null ∨ u ≠ null ∧ u.castTo? t = some v := by
  rw [cast]
  by_cases hu : u = null
  · subst hu
    simp [isNull, eq_comm]
  · have hnull : u.isNull = false := by simpa [Bool.eq_false_iff] using hu
    rw [hnull]
    cases h : u.castTo? t <;> simp [hu]

/-! ## Whole numbers -/

theorem asInt?_smallIntOf? {n : Int} (h : smallIntOf? n = some v) : v ≠ null ∧ v.asInt? = some n := by
  rw [smallIntOf?] at h
  split at h
  · next hn =>
    cases h
    exact ⟨nofun, congrArg some (Int16.toInt_ofInt_of_le (by omega) (by omega))⟩
  · cases h

theorem asInt?_intOf? {n : Int} (h : intOf? n = some v) : v ≠ null ∧ v.asInt? = some n := by
  rw [intOf?] at h
  split at h
  · next hn =>
    cases h
    exact ⟨nofun, congrArg some (Int32.toInt_ofInt_of_le (by omega) (by omega))⟩
  · cases h

theorem asInt?_bigIntOf? {n : Int} (h : bigIntOf? n = some v) : v ≠ null ∧ v.asInt? = some n := by
  rw [bigIntOf?] at h
  split at h
  · next hn =>
    cases h
    exact ⟨nofun, congrArg some (Int64.toInt_ofInt_of_le (by omega) (by omega))⟩
  · cases h

/-! ## Casting twice -/

/-- A form of a decimal is a decimal. -/
theorem castTo?_decimal (h : u.castTo? .decimal = some v) : ∃ s, v = decimal s := by
  cases u with
  | decimal s => exact ⟨s, (Option.some.inj h).symm⟩
  | double x => exact ⟨_, (Option.some.inj h).symm⟩
  | _ =>
    simp only [castTo?, Option.map_eq_some_iff] at h
    obtain ⟨n, -, rfl⟩ := h
    exact ⟨_, rfl⟩

/-- A form is not NULL, and it stays as it is. -/
theorem castTo?_castTo? (h : u.castTo? t = some v) : v ≠ null ∧ v.castTo? t = some v := by
  cases t with
  | boolean =>
    obtain ⟨b, -, rfl⟩ := Option.map_eq_some_iff.1 h
    exact ⟨nofun, rfl⟩
  | smallInt =>
    obtain ⟨n, -, hn⟩ := Option.bind_eq_some_iff.1 h
    obtain ⟨hv, hint⟩ := asInt?_smallIntOf? hn
    exact ⟨hv, Option.bind_eq_some_iff.2 ⟨n, hint, hn⟩⟩
  | integer =>
    obtain ⟨n, -, hn⟩ := Option.bind_eq_some_iff.1 h
    obtain ⟨hv, hint⟩ := asInt?_intOf? hn
    exact ⟨hv, Option.bind_eq_some_iff.2 ⟨n, hint, hn⟩⟩
  | bigInt =>
    obtain ⟨n, -, hn⟩ := Option.bind_eq_some_iff.1 h
    obtain ⟨hv, hint⟩ := asInt?_bigIntOf? hn
    exact ⟨hv, Option.bind_eq_some_iff.2 ⟨n, hint, hn⟩⟩
  | double =>
    obtain ⟨x, -, rfl⟩ := Option.map_eq_some_iff.1 h
    exact ⟨nofun, rfl⟩
  | decimal =>
    obtain ⟨s, rfl⟩ := castTo?_decimal h
    exact ⟨nofun, rfl⟩
  | text =>
    cases u <;> cases h
    exact ⟨nofun, rfl⟩
  | blob =>
    cases u <;> cases h
    exact ⟨nofun, rfl⟩

/-- What was cast has the form of the type already. -/
theorem cast_cast (h : u.cast t = .ok v) : v.cast t = .ok v := by
  rcases cast_eq_ok.1 h with ⟨-, rfl⟩ | ⟨-, hform⟩
  · exact cast_null t
  · exact cast_eq_ok.2 (.inr (castTo?_castTo? hform))

theorem folded_of_ne_double (hv : ∀ x, v ≠ double x) : v.folded = v := by
  cases v with
  | double x => exact absurd rfl (hv x)
  | _ => rfl

/-- Apart from doubles, only a value itself is the same key. -/
theorem eq_of_beq (huv : (u == v) = true) (hv : ∀ x, v ≠ double x) : u = v := by
  have hfolded := (beq_iff_folded u v).1 huv
  rw [folded_of_ne_double hv] at hfolded
  have hu : ∀ x, u ≠ double x := by
    rintro x rfl
    exact hv _ hfolded.symm
  rwa [folded_of_ne_double hu] at hfolded

/-- Only the type of doubles has doubles as forms. -/
theorem eq_double_of_cast {x : Binary64} (h : u.cast t = .ok (double x)) : t = .double := by
  rcases cast_eq_ok.1 h with ⟨-, hnull⟩ | ⟨-, hform⟩
  · cases hnull
  · obtain ⟨-, hself⟩ := castTo?_castTo? hform
    cases t <;> first | rfl | cases hself

/-- What is the same key as a value in the form of a type is cast to the same key. -/
theorem beq_of_cast (hv : v.cast t = .ok v) (huv : (u == v) = true) (hu : u.cast t = .ok w) :
    (w == v) = true := by
  by_cases hdouble : ∃ x, v = double x
  · obtain ⟨x, rfl⟩ := hdouble
    obtain rfl := eq_double_of_cast hv
    have hfolded := (beq_iff_folded _ _).1 huv
    cases u with
    | double y =>
      cases hu
      exact huv
    | _ => simp [folded] at hfolded
  · obtain rfl := eq_of_beq huv fun x hx => hdouble ⟨x, hx⟩
    rw [hv, Except.ok.injEq] at hu
    exact hu ▸ BEq.rfl

end EntitySession.Value
