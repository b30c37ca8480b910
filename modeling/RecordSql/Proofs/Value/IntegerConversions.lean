import Mathlib.Algebra.Group.Int.Defs
import Mathlib.Algebra.Group.Nat.Defs
import RecordSql.Error

/-!
# Conversions of integers

Integers of every width become values in one of three kinds, and values are wanted as words of three
types, one of which is reached by way of another. Throughout, a word is that of the integer, or the
conversion fails.

* `IntegerType`, `IntegerTarget`: where integers come from and what they are wanted as.
* `IntegerTarget.check_cases`: which integers a type has a word for.
* `Value.convert_of_integer`: a conversion depends on nothing but the integer.
* `conversions_of_integer`: when it succeeds, with which word, and how it fails.
-/

namespace RecordSql

/-! ## Where integers come from -/

/-- The integer that a value carries. -/
def Value.carriedInteger? : Value → Option Int
  | .int n | .enumeration n => some n.toInt
  | .uint n => some n.toNat
  | _ => none

/-- The types whose integers become values. -/
inductive IntegerType
  | int8
  | int16
  | int32
  | int64
  | uint8
  | uint16
  | uint32
  | uint64
  /-- The numbers that stand for the members of enumerations. -/
  | enumeration
  deriving DecidableEq, Repr

namespace IntegerType

/-- The words of a type. -/
abbrev Carrier : IntegerType → Type
  | int8 => Int8
  | int16 => Int16
  | int32 => Int32
  | int64 | enumeration => Int64
  | uint8 => UInt8
  | uint16 => UInt16
  | uint32 => UInt32
  | uint64 => UInt64

/-- The integer that a word stands for. -/
def integer : (s : IntegerType) → s.Carrier → Int
  | int8, x => Int8.toInt x
  | int16, x => Int16.toInt x
  | int32, x => Int32.toInt x
  | int64, x | enumeration, x => Int64.toInt x
  | uint8, x => UInt8.toNat x
  | uint16, x => UInt16.toNat x
  | uint32, x => UInt32.toNat x
  | uint64, x => UInt64.toNat x

/-- The value that a word becomes. -/
def value : (s : IntegerType) → s.Carrier → Value
  | int8, x => toValue (α := Int8) x
  | int16, x => toValue (α := Int16) x
  | int32, x => toValue (α := Int32) x
  | int64, x => toValue (α := Int64) x
  | uint8, x => toValue (α := UInt8) x
  | uint16, x => toValue (α := UInt16) x
  | uint32, x => toValue (α := UInt32) x
  | uint64, x => toValue (α := UInt64) x
  | enumeration, x => .enumeration x

/-- A signed word of fewer bits is kept as it is put into one of 64 bits. -/
theorem toInt_ofInt_of_narrow {i : Int} (h : -2 ^ 31 ≤ i ∧ i < 2 ^ 31) :
    (Int64.ofInt i).toInt = i :=
  Int64.toInt_ofInt_of_le (by omega) (by omega)

theorem toNat_ofNat_of_narrow {n : Nat} (h : n < 2 ^ 32) : (UInt64.ofNat n).toNat = n :=
  UInt64.toNat_ofNat_of_lt' (Nat.lt_trans h (by decide))

/-- No integer is changed in becoming a value. -/
theorem carriedInteger?_value (s : IntegerType) (x : s.Carrier) :
    (s.value x).carriedInteger? = some (s.integer x) := by
  cases s with
  | int8 =>
    have hlo := Int8.le_toInt x
    have hhi := Int8.toInt_lt x
    exact congrArg some (toInt_ofInt_of_narrow (by omega))
  | int16 =>
    have hlo := Int16.le_toInt x
    have hhi := Int16.toInt_lt x
    exact congrArg some (toInt_ofInt_of_narrow (by omega))
  | int32 => exact congrArg some (toInt_ofInt_of_narrow ⟨Int32.le_toInt x, Int32.toInt_lt x⟩)
  | uint8 =>
    have hhi := UInt8.toNat_lt x
    exact congrArg (some ∘ Int.ofNat) (toNat_ofNat_of_narrow (by omega))
  | uint16 =>
    have hhi := UInt16.toNat_lt x
    exact congrArg (some ∘ Int.ofNat) (toNat_ofNat_of_narrow (by omega))
  | uint32 => exact congrArg (some ∘ Int.ofNat) (toNat_ofNat_of_narrow (UInt32.toNat_lt x))
  | int64 | uint64 | enumeration => rfl

theorem isNull_value (s : IntegerType) (x : s.Carrier) : (s.value x).isNull = false := by
  cases s <;> rfl

end IntegerType

/-! ## What integers are wanted as -/

/-- The types of words that values are converted to. -/
inductive IntegerTarget
  | int64
  | int32
  | uint64
  deriving DecidableEq, Repr

namespace IntegerTarget

/-- The type, as one of those that values are converted to. -/
def target : IntegerTarget → Target
  | int64 => .int64
  | int32 => .int32
  | uint64 => .uint64

/-- The least integer that the type has a word for. -/
def least : IntegerTarget → Int
  | int64 => -2 ^ 63
  | int32 => -2 ^ 31
  | uint64 => 0

/-- The greatest integer that the type has a word for. -/
def greatest : IntegerTarget → Int
  | int64 => 2 ^ 63 - 1
  | int32 => 2 ^ 31 - 1
  | uint64 => 2 ^ 64 - 1

/-- The integer that a word stands for. -/
def integer : (t : IntegerTarget) → t.target.Carrier → Int
  | int64, n => Int64.toInt n
  | int32, n => Int32.toInt n
  | uint64, n => UInt64.toNat n

/-- The word of an integer, if the type has one. -/
def check : (t : IntegerTarget) → Int → Except RangeError t.target.Carrier
  | int64 => toInt64
  | int32 => toInt32
  | uint64 => toUInt64

theorem check_eq_ok_iff {t : IntegerTarget} {i : Int} {n : t.target.Carrier} :
    t.check i = .ok n ↔ t.integer n = i := by
  cases t with
  | int64 => exact toInt64_eq_ok_iff
  | int32 => exact toInt32_eq_ok_iff
  | uint64 => exact toUInt64_eq_ok_iff

theorem least_le_greatest (t : IntegerTarget) : t.least ≤ t.greatest := by
  cases t <;> decide

/-- A type has a word for just the integers of its range. -/
theorem check_cases (t : IntegerTarget) (i : Int) :
    (∃ n, t.check i = .ok n ∧ t.integer n = i ∧ t.least ≤ i ∧ i ≤ t.greatest) ∨
      (i < t.least ∧ t.check i = .error .tooSmall) ∨
      (t.greatest < i ∧ t.check i = .error .tooLarge) := by
  have hfit : ∃ f, t.check i = (fit t.least t.greatest i).map f := by
    cases t <;> exact ⟨_, rfl⟩
  obtain ⟨f, hf⟩ := hfit
  cases h : fit t.least t.greatest i with
  | ok j =>
    rw [h] at hf
    obtain ⟨hlo, hhi, rfl⟩ := fit_eq_ok_iff.mp h
    exact .inl ⟨f j, hf, check_eq_ok_iff.mp hf, hlo, hhi⟩
  | error e =>
    rw [h] at hf
    obtain ⟨hlo, rfl⟩ | ⟨hhi, rfl⟩ := (fit_eq_error_iff t.least_le_greatest).mp h
    · exact .inr (.inl ⟨hlo, hf⟩)
    · exact .inr (.inr ⟨hhi, hf⟩)

theorem exists_word_iff (t : IntegerTarget) (i : Int) :
    (∃ n, t.integer n = i) ↔ t.least ≤ i ∧ i ≤ t.greatest := by
  simp only [← check_eq_ok_iff]
  obtain ⟨n, h, -, hrange⟩ | ⟨hlo, h⟩ | ⟨hhi, h⟩ := t.check_cases i
  · exact iff_of_true ⟨n, h⟩ hrange
  · exact iff_of_false (by simp [h]) (by omega)
  · exact iff_of_false (by simp [h]) (by omega)

/-- An integer that is too large for the signed words is so for all narrower ones. -/
theorem check_int32_of_uint (n : UInt64) :
    (check .int64 n.toNat).bind (fun m => check .int32 (Int64.toInt m)) = check .int32 n.toNat := by
  obtain ⟨m, hm, hinteger, -⟩ | ⟨hlo, -⟩ | ⟨hhi, herror⟩ := check_cases .int64 n.toNat
  · rw [hm]
    exact congrArg (check .int32) hinteger
  · have hleast : least .int64 ≤ 0 := by decide
    omega
  · have hwide : greatest .int32 ≤ greatest .int64 := by decide
    obtain ⟨-, -, -, -, hle⟩ | ⟨hlo, -⟩ | ⟨-, herror'⟩ := check_cases .int32 n.toNat
    · omega
    · have hleast : least .int32 ≤ 0 := by decide
      omega
    · rw [herror, herror']
      rfl

end IntegerTarget

/-! ## Conversions -/

namespace Value

variable {v : Value} {i : Int} (hv : v.carriedInteger? = some i) (column : String)
  (t : IntegerTarget)

include hv

/-- A conversion depends on nothing but the integer that a value carries. -/
theorem convert_of_integer : v.convert t.target = (t.check i).mapError .range := by
  cases v with
  | int n | enumeration n =>
    obtain rfl := Option.some.inj hv
    cases t with
    | int64 =>
      show Except.ok n = (toInt64 n.toInt).mapError ConversionError.range
      rw [toInt64_eq_ok_iff.mpr rfl]
      rfl
    | int32 | uint64 => rfl
  | uint n =>
    obtain rfl := Option.some.inj hv
    cases t with
    | int64 => rfl
    | int32 =>
      rw [← IntegerTarget.check_int32_of_uint n]
      show ((toInt64 n.toNat).mapError _).bind _ = ((toInt64 n.toNat).bind _).mapError _
      cases toInt64 n.toNat <;> rfl
    | uint64 =>
      show Except.ok n = (toUInt64 n.toNat).mapError ConversionError.range
      rw [toUInt64_eq_ok_iff.mpr rfl]
      rfl
  | null | bool _ | float _ | text _ | dateTime _ | other _ => cases hv

theorem decode_of_integer : v.decode column t.target =
    (t.check i).mapError fun e => .decode column e.message := by
  rw [decode, convert_of_integer hv]
  cases t.check i <;> rfl

theorem decode_of_integer_eq_ok_iff {n : t.target.Carrier} :
    v.decode column t.target = .ok n ↔ t.integer n = i := by
  rw [decode_of_integer hv, ← IntegerTarget.check_eq_ok_iff]
  cases t.check i with
  | ok m =>
    show Except.ok m = .ok n ↔ _
    rw [Except.ok.injEq, Except.ok.injEq]
  | error e => exact iff_of_false nofun nofun

theorem decode_of_integer_eq_error_iff {e : Error} :
    v.decode column t.target = .error e ↔
      i < t.least ∧ e = .decode column RangeError.tooSmall.message ∨
        t.greatest < i ∧ e = .decode column RangeError.tooLarge.message := by
  have hrange := t.least_le_greatest
  rw [decode_of_integer hv]
  obtain ⟨n, h, -, hlo, hhi⟩ | ⟨hlo, h⟩ | ⟨hhi, h⟩ := t.check_cases i
  · rw [h]
    exact iff_of_false nofun (by omega)
  · have hhi : ¬ t.greatest < i := by omega
    rw [h]
    show Except.error _ = .error e ↔ _
    simp [hlo, hhi, eq_comm]
  · have hlo : ¬ i < t.least := by omega
    rw [h]
    show Except.error _ = .error e ↔ _
    simp [hlo, hhi, eq_comm]

end Value

/-- **Conversions of integers.** Take a word of any type of integers, or the number that stands for
    a member of an enumeration, as a value, and one of the types that values are converted to.

    - The conversion gives a word just if it stands for the integer.
    - There is such a word just if the integer is in the range of the type.
    - Otherwise the conversion fails with an error about the column, which says on which side of the
      range the integer is.
    - Where the column may be null, the conversion gives and fails with the same.
    - The words of two types stand for one integer. -/
theorem conversions_of_integer (s : IntegerType) (x : s.Carrier) (column : String)
    (t : IntegerTarget) :
    let i := s.integer x
    let v := s.value x
    (∀ n, v.decode column t.target = .ok n ↔ t.integer n = i) ∧
    ((∃ n, t.integer n = i) ↔ t.least ≤ i ∧ i ≤ t.greatest) ∧
    (∀ e, v.decode column t.target = .error e ↔
      i < t.least ∧ e = .decode column RangeError.tooSmall.message ∨
        t.greatest < i ∧ e = .decode column RangeError.tooLarge.message) ∧
    v.decodeNullable column t.target = (v.decode column t.target).map some ∧
    ∀ (u : IntegerTarget) (n : t.target.Carrier) (m : u.target.Carrier),
      v.decode column t.target = .ok n → v.decode column u.target = .ok m →
        t.integer n = u.integer m := by
  intro i v
  have hv : v.carriedInteger? = some i := s.carriedInteger?_value x
  refine ⟨fun n => Value.decode_of_integer_eq_ok_iff hv column t, t.exists_word_iff i,
    fun e => Value.decode_of_integer_eq_error_iff hv column t,
    Value.decodeNullable_of_not_isNull (s.isNull_value x) column t.target, ?_⟩
  intro u n m hn hm
  rw [Value.decode_of_integer_eq_ok_iff hv] at hn hm
  exact hn.trans hm.symm

/-- The least word of 32 bits is a word of 64 bits, and no unsigned one. -/
theorem conversions_of_integer_least :
    let v := toValue (-2147483648 : Int32)
    v.decode "Level" .int32 = .ok (-2147483648) ∧ v.decode "Level" .int64 = .ok (-2147483648) ∧
      v.decode "Level" .uint64 =
        .error (.decode "Level" "number too small to fit in target type") := by
  intro v
  have hnarrow := (conversions_of_integer .int32 (-2147483648 : Int32) "Level" .int32).1
  have hwide := (conversions_of_integer .int32 (-2147483648 : Int32) "Level" .int64).1
  have hunsigned := (conversions_of_integer .int32 (-2147483648 : Int32) "Level" .uint64).2.2.1
  exact ⟨(hnarrow _).mpr (by decide), (hwide _).mpr (by decide),
    (hunsigned _).mpr (.inl ⟨by decide, rfl⟩)⟩

end RecordSql
