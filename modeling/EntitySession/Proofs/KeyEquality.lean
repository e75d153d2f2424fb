import EntitySession.Proofs.Storage

/-!
# Values as the keys of a hash map

A map that is keyed by values asks two things of them: whether two are the same key, and what to compute
a hash from.  The two were written apart, a case for each kind of value, and a map loses its entries if
they do not fit.  They do, because both are about the representative of a value (`Value.folded`): being
the same key is having the same one (`Value.beq_iff_folded`), and so is being hashed alike
(`Value.hashed_eq_iff`).

A hash is computed from bytes.  What a step of `Value.hashed` comes to is `HashStep.fed`, and it is still
enough to tell the values apart (`Value.fed_eq_iff`): the first byte tells the kind, whole numbers of one
kind are equally long, and a text or a blob shows where it ends.

Doubles are the only kind where the same key is not the same value.  Their representative folds the two
zeros into one and all NaNs into one, and leaves every other double as it is (`Binary64.folded_eq_iff`).
-/

set_option autoImplicit false

namespace EntitySession

/-! ## Doubles -/

namespace Binary64

variable {x y : Binary64}

/-- The exponent bits of a zero are not those of a NaN. -/
theorem isNaN_of_isZero (hx : x.isZero = true) : x.isNaN = false := by
  simp only [isZero, Bool.and_eq_true, beq_iff_eq] at hx
  simp [isNaN, hx.1]

theorem folded_of_isZero (hx : x.isZero = true) : x.folded = zero := if_pos hx

theorem folded_of_isNaN (hx : x.isNaN = true) : x.folded = nan := by
  have hzero : ¬x.isZero = true := fun h => by rw [isNaN_of_isZero h] at hx; cases hx
  rw [folded, if_neg hzero, if_pos hx]

theorem folded_of_not (hzero : x.isZero = false) (hnan : x.isNaN = false) : x.folded = x := by
  rw [folded, hzero, hnan]
  rfl

theorem isZero_folded (x : Binary64) : x.folded.isZero = x.isZero := by
  unfold folded
  split
  · next hzero => exact hzero.symm
  · next hzero =>
    split
    · rw [Bool.not_eq_true] at hzero
      rw [hzero]
      decide
    · rfl

theorem isNaN_folded (x : Binary64) : x.folded.isNaN = x.isNaN := by
  unfold folded
  split
  · next hzero =>
    rw [isNaN_of_isZero hzero]
    decide
  · split
    · next hnan => exact hnan.symm
    · rfl

/-- Two doubles are the same key if both are NaNs, both are zeros, or their bits agree. -/
theorem folded_eq_iff : x.folded = y.folded ↔
    x.isNaN = true ∧ y.isNaN = true ∨ x.isZero = true ∧ y.isZero = true ∨ x.bits = y.bits := by
  constructor
  · intro h
    have hzero : x.isZero = y.isZero := by rw [← isZero_folded x, h, isZero_folded]
    have hnan : x.isNaN = y.isNaN := by rw [← isNaN_folded x, h, isNaN_folded]
    cases hx : x.isNaN with
    | true => exact .inl ⟨rfl, hnan ▸ hx⟩
    | false =>
      cases hx' : x.isZero with
      | true => exact .inr (.inl ⟨rfl, hzero ▸ hx'⟩)
      | false =>
        rw [folded_of_not hx' hx, folded_of_not (hzero ▸ hx') (hnan ▸ hx)] at h
        exact .inr (.inr (congrArg bits h))
  · rintro (⟨hx, hy⟩ | ⟨hx, hy⟩ | h)
    · rw [folded_of_isNaN hx, folded_of_isNaN hy]
    · rw [folded_of_isZero hx, folded_of_isZero hy]
    · obtain rfl : x = y := congrArg Binary64.mk h
      rfl

/-- A zero has no bit set, or only that of the sign. -/
theorem isZero_iff : x.isZero = true ↔ x.bits = 0 ∨ x.bits = 0x8000000000000000 := by
  have hlt := x.bits.toNat_lt
  rw [← UInt64.toNat_inj, ← UInt64.toNat_inj]
  simp only [isZero, exponentField, fractionField, Bool.and_eq_true, beq_iff_eq,
    show twoTo 52 = 4503599627370496 from rfl, show twoTo 11 = 2048 from rfl]
  change _ ↔ x.bits.toNat = 0 ∨ x.bits.toNat = 9223372036854775808
  omega

end Binary64

/-! ## The bytes of a hash -/

/-- The lowest bytes of a number, the lowest one first. -/
def littleEndian : Nat → Nat → List UInt8
  | 0, _ => []
  | count + 1, n => UInt8.ofNat (n % 256) :: littleEndian count (n / 256)

/-- How many numbers can be told apart by so many bytes. -/
def room : Nat → Nat
  | 0 => 1
  | count + 1 => 256 * room count

theorem length_littleEndian (count n : Nat) : (littleEndian count n).length = count := by
  induction count generalizing n with
  | zero => rfl
  | succ count ih => rw [littleEndian, List.length_cons, ih]

theorem littleEndian_inj {count m n : Nat} (hm : m < room count) (hn : n < room count)
    (h : littleEndian count m = littleEndian count n) : m = n := by
  induction count generalizing m n with
  | zero =>
    change m < 1 at hm
    change n < 1 at hn
    omega
  | succ count ih =>
    obtain ⟨hlow, hhigh⟩ := List.cons.inj h
    have hlow : m % 256 = n % 256 := by
      have hnat := congrArg UInt8.toNat hlow
      rw [UInt8.toNat_ofNat', UInt8.toNat_ofNat'] at hnat
      omega
    have hhigh : m / 256 = n / 256 :=
      ih (Nat.div_lt_of_lt_mul hm) (Nat.div_lt_of_lt_mul hn) hhigh
    omega

namespace Value

namespace HashStep

/-- The bytes that a step puts into a hash: numbers in their width, the lowest byte first, a text with a
byte behind it that no text has, and other bytes with their number before them. -/
def fed : HashStep → List UInt8
  | kind n => [n]
  | bool b => [if b then 1 else 0]
  | int16 n => littleEndian 2 n.toUInt16.toNat
  | int32 n => littleEndian 4 n.toUInt32.toNat
  | int64 n => littleEndian 8 n.toUInt64.toNat
  | word w => littleEndian 8 w.toNat
  | text s => s.toUTF8.data.toList ++ [0xff]
  | bytes b => littleEndian 8 b.length ++ b

theorem fed_int16_inj {m n : Int16} (h : (int16 m).fed = (int16 n).fed) : m = n := by
  have hnat := littleEndian_inj m.toUInt16.toNat_lt n.toUInt16.toNat_lt h
  cases m
  cases n
  exact congrArg Int16.ofUInt16 (UInt16.toNat_inj.1 hnat)

theorem fed_int32_inj {m n : Int32} (h : (int32 m).fed = (int32 n).fed) : m = n := by
  have hnat := littleEndian_inj m.toUInt32.toNat_lt n.toUInt32.toNat_lt h
  cases m
  cases n
  exact congrArg Int32.ofUInt32 (UInt32.toNat_inj.1 hnat)

theorem fed_int64_inj {m n : Int64} (h : (int64 m).fed = (int64 n).fed) : m = n := by
  have hnat := littleEndian_inj m.toUInt64.toNat_lt n.toUInt64.toNat_lt h
  cases m
  cases n
  exact congrArg Int64.ofUInt64 (UInt64.toNat_inj.1 hnat)

theorem fed_word_inj {v w : UInt64} (h : (word v).fed = (word w).fed) : v = w := by
  have hroom (u : UInt64) : u.toNat < room 8 := u.toNat_lt
  exact UInt64.toNat_inj.1 (littleEndian_inj (hroom v) (hroom w) h)

theorem fed_text_inj {s t : String} (h : (text s).fed = (text t).fed) : s = t := by
  have hdata := Array.toList_inj.1 (List.append_inj' h rfl).1
  exact String.toByteArray_inj.1 (ByteArray.ext hdata)

theorem fed_bytes_inj {a b : List UInt8} (h : (bytes a).fed = (bytes b).fed) : a = b :=
  (List.append_inj h (by rw [length_littleEndian, length_littleEndian])).2

/-- What was put in after the kind. -/
theorem fed_of_kind {k : UInt8} {s t : HashStep}
    (h : [kind k, s].flatMap fed = [kind k, t].flatMap fed) : s.fed = t.fed := by
  simpa [fed] using h

end HashStep

/-- The bytes that a hash of a value is computed from. -/
def fed (v : Value) : List UInt8 := v.hashed.flatMap HashStep.fed

variable {a b c : Value}

theorem hashed_folded (v : Value) : v.folded.hashed = v.hashed := by
  cases v with
  | double x => rw [folded, hashed, hashed, Binary64.folded_folded]
  | _ => rfl

theorem ownType?_folded (v : Value) : v.folded.ownType? = v.ownType? := by
  cases v <;> rfl

/-- The first byte tells kinds apart, and the others what has different representatives. -/
theorem folded_of_fed (h : a.fed = b.fed) : a.folded = b.folded := by
  cases a <;> cases b
  case null.null => rfl
  case bool.bool x y =>
    have hbyte := HashStep.fed_of_kind (k := 1) (s := .bool x) (t := .bool y) h
    cases x <;> cases y <;> first | rfl | exact absurd hbyte (by decide)
  case smallInt.smallInt m n => rw [HashStep.fed_int16_inj (HashStep.fed_of_kind h)]
  case int.int m n => rw [HashStep.fed_int32_inj (HashStep.fed_of_kind h)]
  case bigInt.bigInt m n => rw [HashStep.fed_int64_inj (HashStep.fed_of_kind h)]
  case double.double x y =>
    have hbits := HashStep.fed_word_inj (HashStep.fed_of_kind h)
    exact congrArg (fun bits => double ⟨bits⟩) hbits
  case decimal.decimal s t => rw [HashStep.fed_text_inj (HashStep.fed_of_kind h)]
  case text.text s t => rw [HashStep.fed_text_inj (HashStep.fed_of_kind h)]
  case bytes.bytes x y => rw [HashStep.fed_bytes_inj (HashStep.fed_of_kind h)]
  all_goals exact absurd (List.cons.inj h).1 (by decide)

/-- Values feed the same bytes to a hash exactly if they are the same key. -/
theorem fed_eq_iff : a.fed = b.fed ↔ (a == b) = true := by
  rw [beq_iff_folded]
  refine ⟨folded_of_fed, fun h => ?_⟩
  rw [fed, fed, ← hashed_folded a, h, hashed_folded]

theorem hashed_eq_iff : a.hashed = b.hashed ↔ (a == b) = true := by
  constructor
  · intro h
    rw [← fed_eq_iff, fed, fed, h]
  · intro h
    rw [← hashed_folded a, (beq_iff_folded a b).1 h, hashed_folded]

theorem ownType?_of_beq (h : (a == b) = true) : a.ownType? = b.ownType? := by
  rw [← ownType?_folded a, (beq_iff_folded a b).1 h, ownType?_folded]

theorem double_beq_iff {x y : Binary64} : (double x == double y) = true ↔
    x.isNaN = true ∧ y.isNaN = true ∨ x.isZero = true ∧ y.isZero = true ∨ x.bits = y.bits := by
  rw [beq_iff_folded, ← Binary64.folded_eq_iff]
  exact ⟨fun h => by injection h, congrArg double⟩

/-! ## Maps -/

/-- Hashing by a digest of the bytes that a value feeds. -/
abbrev hashing (digest : List UInt8 → UInt64) : Hashable Value := ⟨fun v => digest v.fed⟩

/-- The maps that are keyed by values. -/
abbrev Map (digest : List UInt8 → UInt64) (α : Type) : Type := @Std.HashMap Value α _ (hashing digest)

instance (digest : List UInt8 → UInt64) : @LawfulHashable Value _ (hashing digest) :=
  @LawfulHashable.mk Value _ (hashing digest) fun _ _ h => congrArg digest (fed_eq_iff.2 h)

/-- What a map keyed by values needs of them, and what it has from it. -/
structure LawfulKeys : Prop where
  refl : ∀ a : Value, (a == a) = true
  symm : ∀ a b : Value, (a == b) = true → (b == a) = true
  trans : ∀ a b c : Value, (a == b) = true → (b == c) = true → (a == c) = true
  /-- Only values of one kind are equal. -/
  ownType : ∀ a b : Value, (a == b) = true → a.ownType? = b.ownType?
  double_iff : ∀ x y : Binary64, (double x == double y) = true ↔
    x.isNaN = true ∧ y.isNaN = true ∨ x.isZero = true ∧ y.isZero = true ∨ x.bits = y.bits
  /-- The zeros are those of either sign. -/
  isZero_iff : ∀ x : Binary64, x.isZero = true ↔ x.bits = 0 ∨ x.bits = 0x8000000000000000
  /-- Apart from doubles, equal values are the same. -/
  eq_iff : ∀ a b : Value, a.ownType? ≠ some .double → ((a == b) = true ↔ a = b)
  hashed_iff : ∀ a b : Value, (a == b) = true ↔ a.hashed = b.hashed
  fed_iff : ∀ a b : Value, (a == b) = true ↔ a.fed = b.fed
  /-- What was inserted is found under every equal key, and what was there before is found as before
  under all others. -/
  getElem?_insert : ∀ (digest : List UInt8 → UInt64) (α : Type) (m : Map digest α) (a b : Value) (x : α),
    (m.insert a x)[b]? = if a == b then some x else m[b]?
  /-- What is taken out is gone under every equal key, and nothing else is. -/
  getElem?_erase : ∀ (digest : List UInt8 → UInt64) (α : Type) (m : Map digest α) (a b : Value),
    (m.erase a)[b]? = if a == b then none else m[b]?
  /-- No two entries of a map have equal keys. -/
  distinct : ∀ (digest : List UInt8 → UInt64) (α : Type) (m : Map digest α),
    m.keys.Pairwise fun a b => (a == b) = false

/-- **Values are lawful keys.** -/
theorem lawfulKeys : LawfulKeys where
  refl _ := BEq.rfl
  symm _ _ := BEq.symm
  trans _ _ _ := BEq.trans
  ownType _ _ := ownType?_of_beq
  double_iff _ _ := double_beq_iff
  isZero_iff _ := Binary64.isZero_iff
  eq_iff a b ha := by
    constructor
    · intro h
      exact (eq_of_beq (BEq.symm h) fun x hx => ha (hx ▸ rfl)).symm
    · rintro rfl
      exact BEq.rfl
  hashed_iff _ _ := hashed_eq_iff.symm
  fed_iff _ _ := fed_eq_iff.symm
  getElem?_insert _ _ _ _ _ _ := Std.HashMap.getElem?_insert
  getElem?_erase _ _ _ _ _ := Std.HashMap.getElem?_erase
  distinct _ _ _ := Std.HashMap.distinct_keys

end Value

namespace Gauges

open Value

/-- A poor digest, by which many values are hashed alike. -/
def lengthOf (bytes : List UInt8) : UInt64 := UInt64.ofNat bytes.length

/-- Two NaNs with different bits are one key, and so are the two zeros: what was kept under one is found
under the other.  The same number in another kind finds nothing, although it is hashed alike. -/
theorem lawfulKeys_doubles :
    (double ⟨0x7ff8000000000000⟩ == double ⟨0xfff0000000000001⟩) = true ∧
    (((∅ : Map lengthOf Nat).insert (double ⟨0⟩) 1)[double ⟨0x8000000000000000⟩]? = some 1) ∧
    (((∅ : Map lengthOf Nat).insert (bigInt 0) 1)[double ⟨0⟩]? = none) ∧
    lengthOf (bigInt 0).fed = lengthOf (double ⟨0⟩).fed := by
  have hzeros : (double ⟨0⟩ == double ⟨0x8000000000000000⟩) = true := by decide +kernel
  have hkinds : (bigInt 0 == double ⟨0⟩) = false := by decide +kernel
  refine ⟨?_, ?_, ?_, by decide +kernel⟩
  · exact (lawfulKeys.double_iff _ _).2 (.inl ⟨by decide +kernel, by decide +kernel⟩)
  · rw [lawfulKeys.getElem?_insert, if_pos hzeros]
  · rw [lawfulKeys.getElem?_insert, hkinds]
    exact Std.HashMap.getElem?_empty

end Gauges

end EntitySession
