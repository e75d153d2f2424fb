import EntitySession.Proofs.Metadata
import EntitySession.Proofs.Storage

/-!
# The form that a value takes in a type

Keys, foreign keys and snapshots are compared after they were cast a different number of times, and from
whatever kind of value a caller, a field or the database came with.  They agree because a cast has a
normal form for each type: what it yields is of the type's own kind and stays as it is
(`Value.ownType?_of_castTo?`), and apart from doubles it depends on nothing but the whole number that
the value stands for, if it stands for one (`Value.castTo?_of_asInt?`).

For the three types of whole numbers this is all there is to a cast.  `Value.numberOf?` is the one value
of the type's own kind that stands for a number, which is there if the number is in the type's range, and
to cast is to look for it (`Value.castTo?_of_isIntegral`).
-/

set_option autoImplicit false

namespace EntitySession

/-- Whether a number lies in the range of a type of whole numbers. -/
def SqlType.Holds : SqlType → Int → Prop
  | smallInt, n => -32768 ≤ n ∧ n < 32768
  | integer, n => -2147483648 ≤ n ∧ n < 2147483648
  | bigInt, n => -9223372036854775808 ≤ n ∧ n < 9223372036854775808
  | _, _ => False

namespace Value

variable {t t₁ : SqlType} {u v w : Value} {n : Int}

/-! ## Whole numbers -/

/-- The value of a type that stands for a number, if the type has whole numbers and this one is in its
range. -/
def numberOf? : SqlType → Int → Option Value
  | .smallInt, n => smallIntOf? n
  | .integer, n => intOf? n
  | .bigInt, n => bigIntOf? n
  | _, _ => none

theorem castTo?_of_isIntegral (ht : t.isIntegral = true) (v : Value) :
    v.castTo? t = v.asInt?.bind (numberOf? t) := by
  cases t <;> first | rfl | cases ht

theorem exists_numberOf?_iff (t : SqlType) (n : Int) : (∃ w, numberOf? t n = some w) ↔ t.Holds n := by
  rw [← Option.isSome_iff_exists]
  cases t with
  | smallInt | integer | bigInt =>
    simp [numberOf?, smallIntOf?, intOf?, bigIntOf?, SqlType.Holds, Option.isSome_ite]
  | _ => simp [numberOf?, SqlType.Holds]

/-- There is one value of a type's own kind for each number. -/
theorem numberOf?_eq_some_iff (ht : t.isIntegral = true) :
    numberOf? t n = some w ↔ w.ownType? = some t ∧ w.asInt? = some n := by
  constructor
  · intro h
    cases t with
    | smallInt =>
      obtain ⟨-, hn⟩ := asInt?_smallIntOf? h
      obtain ⟨-, hw⟩ := Option.ite_none_right_eq_some.1 h
      cases hw
      exact ⟨rfl, hn⟩
    | integer =>
      obtain ⟨-, hn⟩ := asInt?_intOf? h
      obtain ⟨-, hw⟩ := Option.ite_none_right_eq_some.1 h
      cases hw
      exact ⟨rfl, hn⟩
    | bigInt =>
      obtain ⟨-, hn⟩ := asInt?_bigIntOf? h
      obtain ⟨-, hw⟩ := Option.ite_none_right_eq_some.1 h
      cases hw
      exact ⟨rfl, hn⟩
    | _ => cases ht
  · rintro ⟨hown, hn⟩
    cases w with
    | smallInt k =>
      cases hown
      cases hn
      exact smallIntOf?_toInt k
    | int k =>
      cases hown
      cases hn
      exact intOf?_toInt k
    | bigInt k =>
      cases hown
      cases hn
      exact bigIntOf?_toInt k
    | _ => cases hown <;> cases ht

/-- A form in a type of whole numbers is the value of the type's own kind with the same number. -/
theorem castTo?_integral_iff (ht : t.isIntegral = true) :
    v.castTo? t = some w ↔ ∃ n, v.asInt? = some n ∧ w.ownType? = some t ∧ w.asInt? = some n := by
  rw [castTo?_of_isIntegral ht, Option.bind_eq_some_iff]
  exact exists_congr fun n => and_congr_right fun _ => numberOf?_eq_some_iff ht

/-! ## Every type -/

/-- A form in a type is of the type's own kind. -/
theorem ownType?_of_castTo? (h : v.castTo? t = some w) : w.ownType? = some t := by
  cases t with
  | boolean =>
    obtain ⟨b, -, rfl⟩ := Option.map_eq_some_iff.1 h
    rfl
  | smallInt | integer | bigInt =>
    obtain ⟨n, -, hown, -⟩ := (castTo?_integral_iff rfl).1 h
    exact hown
  | double =>
    obtain ⟨x, -, rfl⟩ := Option.map_eq_some_iff.1 h
    rfl
  | decimal =>
    obtain ⟨s, rfl⟩ := castTo?_decimal h
    rfl
  | text | blob =>
    cases v <;> cases h
    rfl

/-- The values that a cast leaves as they are. -/
theorem cast_self_iff : v.cast t = .ok v ↔ v = null ∨ v.ownType? = some t := by
  refine ⟨fun h => ?_, cast_of_ownType⟩
  rcases cast_eq_ok.1 h with ⟨hnull, -⟩ | ⟨-, hform⟩
  · exact .inl hnull
  · exact .inr (ownType?_of_castTo? hform)

/-- A number is true if it is not 0, whichever kind of value it is. -/
theorem asBool?_of_asInt? (h : v.asInt? = some n) : v.asBool? = some (n != 0) := by
  cases v with
  | bool b =>
    cases h
    cases b <;> rfl
  | smallInt k =>
    cases h
    have hzero : k = 0 ↔ k.toInt = 0 := Int16.toInt_inj.symm
    simp [asBool?, bne, hzero]
  | int k =>
    cases h
    have hzero : k = 0 ↔ k.toInt = 0 := Int32.toInt_inj.symm
    simp [asBool?, bne, hzero]
  | bigInt k =>
    cases h
    have hzero : k = 0 ↔ k.toInt = 0 := Int64.toInt_inj.symm
    simp [asBool?, bne, hzero]
  | _ => cases h

/-- Values that stand for the same number have the same form in a type, but for doubles, which take no
truth value. -/
theorem castTo?_of_asInt? (ht : t ≠ .double) (hu : u.asInt? = some n) (hv : v.asInt? = some n) :
    u.castTo? t = v.castTo? t := by
  cases t with
  | boolean => rw [castTo?, castTo?, asBool?_of_asInt? hu, asBool?_of_asInt? hv]
  | smallInt | integer | bigInt =>
    rw [castTo?_of_isIntegral rfl, castTo?_of_isIntegral rfl, hu, hv]
  | double => exact absurd rfl ht
  | decimal | text | blob =>
    have hform {x : Value} (hx : x.asInt? = some n) : x.castTo? .decimal = some (decimal (toString n)) ∧
        x.castTo? .text = none ∧ x.castTo? .blob = none := by
      cases x <;> cases hx <;> exact ⟨rfl, rfl, rfl⟩
    simp only [hform hu, hform hv]

/-! ## Casts -/

theorem ne_null_of_asInt? (h : v.asInt? = some n) : v ≠ null := by
  rintro rfl
  cases h

theorem cast_eq_ok_of_ne_null (hv : v ≠ null) : v.cast t = .ok w ↔ v.castTo? t = some w := by
  simp [cast_eq_ok, hv]

theorem null_iff_of_cast (h : v.cast t = .ok w) : w = null ↔ v = null := by
  rcases cast_eq_ok.1 h with ⟨rfl, rfl⟩ | ⟨hv, hform⟩
  · exact Iff.rfl
  · exact iff_of_false (castTo?_castTo? hform).1 hv

/-- A cast to a type of whole numbers keeps the number. -/
theorem asInt?_of_cast (ht : t.isIntegral = true) (h : v.cast t = .ok w) : w.asInt? = v.asInt? := by
  rcases cast_eq_ok.1 h with ⟨rfl, rfl⟩ | ⟨-, hform⟩
  · rfl
  · obtain ⟨n, hv, -, hw⟩ := (castTo?_integral_iff ht).1 hform
    rw [hw, hv]

/-- Values that stand for the same number are cast alike. -/
theorem cast_congr_of_asInt? (ht : t ≠ .double) (hu : u.asInt? = some n) (hv : v.asInt? = some n) :
    u.cast t = .ok w ↔ v.cast t = .ok w := by
  rw [cast_eq_ok_of_ne_null (ne_null_of_asInt? hu), cast_eq_ok_of_ne_null (ne_null_of_asInt? hv),
    castTo?_of_asInt? ht hu hv]

/-- It makes no difference to cast to another type of whole numbers first. -/
theorem cast_of_cast (ht₁ : t₁.isIntegral = true) (ht : t ≠ .double) (h : v.cast t₁ = .ok u) :
    u.cast t = .ok w ↔ v.cast t = .ok w := by
  rcases cast_eq_ok.1 h with ⟨rfl, rfl⟩ | ⟨-, hform⟩
  · exact Iff.rfl
  · obtain ⟨n, hv, -, hu⟩ := (castTo?_integral_iff ht₁).1 hform
    exact cast_congr_of_asInt? ht hu hv

theorem exists_cast_iff (ht : t.isIntegral = true) (hv : v ≠ null) :
    (∃ w, v.cast t = .ok w) ↔ ∃ n, v.asInt? = some n ∧ t.Holds n := by
  constructor
  · rintro ⟨w, hw⟩
    rw [cast_eq_ok_of_ne_null hv, castTo?_of_isIntegral ht, Option.bind_eq_some_iff] at hw
    obtain ⟨n, hn, hform⟩ := hw
    exact ⟨n, hn, (exists_numberOf?_iff t n).1 ⟨w, hform⟩⟩
  · rintro ⟨n, hn, hholds⟩
    obtain ⟨w, hform⟩ := (exists_numberOf?_iff t n).2 hholds
    refine ⟨w, (cast_eq_ok_of_ne_null hv).2 ?_⟩
    rw [castTo?_of_isIntegral ht, hn, Option.bind_some, hform]

end Value

/-- What casting to a type does to values. -/
structure SqlType.Normalizes (t : SqlType) : Prop where
  /-- NULL becomes NULL, and nothing else does. -/
  null_iff : ∀ v w : Value, v.cast t = .ok w → (w = .null ↔ v = .null)
  ownType : ∀ v w : Value, v.cast t = .ok w → w ≠ .null → w.ownType? = some t
  cast_cast : ∀ v w : Value, v.cast t = .ok w → w.cast t = .ok w
  /-- Nothing is changed that has the form already. -/
  cast_self_iff : ∀ v : Value, v.cast t = .ok v ↔ v = .null ∨ v.ownType? = some t
  exists_cast_iff : t.isIntegral = true → ∀ v : Value, v ≠ .null →
    ((∃ w, v.cast t = .ok w) ↔ ∃ n, v.asInt? = some n ∧ t.Holds n)
  asInt : t.isIntegral = true → ∀ v w : Value, v.cast t = .ok w → w.asInt? = v.asInt?
  /-- The way over another type of whole numbers leads to the same place. -/
  detour : t.isIntegral = true → ∀ t₁ : SqlType, t₁.isIntegral = true → ∀ v u : Value,
    v.cast t₁ = .ok u → ∀ w, u.cast t = .ok w ↔ v.cast t = .ok w
  sameNumber : t ≠ .double → ∀ (u v : Value) (n : Int), u.asInt? = some n → v.asInt? = some n →
    ∀ w, u.cast t = .ok w ↔ v.cast t = .ok w
  /-- Identifiers that stand for the same number make the same keys. -/
  sameKey : t ≠ .double → ∀ (ms : Mappings) (entity : String) (m : Metadata),
    ms.resolve entity = .ok m → m.identifier.sqlType = t →
    ∀ (u v : Value) (n : Int), u.asInt? = some n → v.asInt? = some n →
    ∀ k, EntityKey.of ms entity u = .ok k ↔ EntityKey.of ms entity v = .ok k

/-- **Casting is a normal form that never changes a number.** -/
theorem SqlType.normalizes (t : SqlType) : t.Normalizes where
  null_iff _ _ h := Value.null_iff_of_cast h
  ownType v w h hw := by
    rcases Value.cast_eq_ok.1 h with ⟨-, hnull⟩ | ⟨-, hform⟩
    · exact absurd hnull hw
    · exact Value.ownType?_of_castTo? hform
  cast_cast _ _ h := Value.cast_cast h
  cast_self_iff _ := Value.cast_self_iff
  exists_cast_iff ht _ hv := Value.exists_cast_iff ht hv
  asInt ht _ _ h := Value.asInt?_of_cast ht h
  detour ht t₁ ht₁ v u h w := Value.cast_of_cast ht₁ (by rintro rfl; cases ht) h
  sameNumber ht _ _ _ hu hv _ := Value.cast_congr_of_asInt? ht hu hv
  sameKey ht ms entity m hm hid u v n hu hv k := by
    rw [EntityKey.of_eq_ok, EntityKey.of_eq_ok]
    refine exists_congr fun m' => and_congr_right fun hm' => and_congr_left fun _ => ?_
    obtain rfl : m' = m := Except.ok.inj (hm'.symm.trans hm)
    rw [hid]
    exact Value.cast_congr_of_asInt? ht hu hv

namespace Gauges

/-- A gauge has a small number. -/
def mappings : Mappings := fun _ =>
  ⟨true, none, [{ Field.simple "number" .smallInt with isId := true }]⟩

/-- A truth value and a wide number name the gauge that has the number 1.  The largest small number is
one, whichever way it comes, and the next one is none. -/
theorem normalizes_one :
    (∀ k, EntityKey.of mappings "Gauge" (.bool true) = .ok k ↔
      EntityKey.of mappings "Gauge" (.bigInt 1) = .ok k) ∧
    EntityKey.of mappings "Gauge" (.bigInt 1) = .ok ⟨"Gauge", .smallInt 1⟩ ∧
    (Value.int 32767).cast .smallInt = .ok (.smallInt 32767) ∧
    ¬∃ w, (Value.int 32768).cast .smallInt = .ok w := by
  have hnormal := SqlType.normalizes .smallInt
  obtain ⟨m, hm⟩ := exists_of_isOk (show (mappings.resolve "Gauge").isOk = true by decide +kernel)
  have hid : m.identifier.sqlType = .smallInt := by
    have hdeclared : (mappings.resolve "Gauge").toOption.map (fun m => m.identifier.sqlType) =
        some .smallInt := by decide +kernel
    rw [hm] at hdeclared
    exact Option.some.inj hdeclared
  have hwide : (Value.int 32767).cast .bigInt = .ok (.bigInt 32767) := by decide +kernel
  refine ⟨?_, ?_, ?_, ?_⟩
  · exact hnormal.sameKey (by decide) mappings "Gauge" m hm hid _ _ 1 (by decide) (by decide)
  · exact EntityKey.of_eq_ok.2 ⟨m, hm, by rw [hid]; decide +kernel, rfl⟩
  · exact (hnormal.detour rfl .bigInt rfl _ _ hwide _).1 (by decide +kernel)
  · rw [hnormal.exists_cast_iff rfl _ (by decide)]
    rintro ⟨n, hn, hholds⟩
    obtain rfl : 32768 = n := Option.some.inj hn
    exact absurd hholds.2 (by decide)

end Gauges

end EntitySession
