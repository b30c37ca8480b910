/-!
# Words of fixed width

Signed and unsigned words as intervals of the integers. An integer is put into a word only if the
word can hold it.

* `fit_eq_ok_iff`, `fit_eq_error_iff`: an integer is accepted exactly if it lies in the interval.
* `toInt64_eq_ok_iff`, `toInt32_eq_ok_iff`, `toUInt64_eq_ok_iff`: a word is that of an integer just
  if it stands for the integer.
-/

namespace RecordSql

/-- Why an integer does not fit into an interval. -/
inductive RangeError
  | tooSmall
  | tooLarge
  deriving DecidableEq, Repr

/-- The message shown for an integer that does not fit. -/
def RangeError.message : RangeError → String
  | .tooSmall => "number too small to fit in target type"
  | .tooLarge => "number too large to fit in target type"

/-- Checks that an integer lies between `lo` and `hi`. -/
def fit (lo hi i : Int) : Except RangeError Int :=
  if i < lo then .error .tooSmall else if hi < i then .error .tooLarge else .ok i

theorem fit_eq_ok_iff {lo hi i j : Int} : fit lo hi i = .ok j ↔ lo ≤ i ∧ i ≤ hi ∧ j = i := by
  unfold fit
  split
  · simp; omega
  · split
    · simp; omega
    · simp only [Except.ok.injEq]
      omega

theorem fit_eq_error_iff {lo hi i : Int} (h : lo ≤ hi) {e : RangeError} :
    fit lo hi i = .error e ↔ i < lo ∧ e = .tooSmall ∨ hi < i ∧ e = .tooLarge := by
  unfold fit
  split
  · next hlo =>
    have hhi : ¬ hi < i := by omega
    simp [hlo, hhi, eq_comm]
  · next hlo =>
    split
    · next hhi => simp [hlo, hhi, eq_comm]
    · next hhi => simp [hlo, hhi]

/-! ## The words in use -/

/-- An integer as a signed word of 64 bits. -/
def toInt64 (i : Int) : Except RangeError Int64 :=
  (fit Int64.minValue.toInt Int64.maxValue.toInt i).map Int64.ofInt

/-- An integer as a signed word of 32 bits. -/
def toInt32 (i : Int) : Except RangeError Int32 :=
  (fit Int32.minValue.toInt Int32.maxValue.toInt i).map Int32.ofInt

/-- An integer as an unsigned word of 64 bits. -/
def toUInt64 (i : Int) : Except RangeError UInt64 :=
  (fit 0 (UInt64.size - 1) i).map fun j => UInt64.ofNat j.toNat

theorem map_fit_eq_ok_iff {α : Type} {lo hi i : Int} {f : Int → α} {x : α} :
    (fit lo hi i).map f = .ok x ↔ lo ≤ i ∧ i ≤ hi ∧ f i = x := by
  cases h : fit lo hi i with
  | error e =>
    have hout : ¬ (lo ≤ i ∧ i ≤ hi) := by
      rintro ⟨hlo, hhi⟩
      rw [fit_eq_ok_iff.mpr ⟨hlo, hhi, rfl⟩] at h
      cases h
    simp only [Except.map, reduceCtorEq, false_iff]
    exact fun hin => hout ⟨hin.1, hin.2.1⟩
  | ok j =>
    obtain ⟨hlo, hhi, rfl⟩ := fit_eq_ok_iff.mp h
    simp [Except.map, hlo, hhi]

theorem toInt64_eq_ok_iff {i : Int} {n : Int64} : toInt64 i = .ok n ↔ n.toInt = i := by
  rw [toInt64, map_fit_eq_ok_iff]
  constructor
  · rintro ⟨hlo, hhi, rfl⟩
    exact Int64.toInt_ofInt_of_le hlo (Int.lt_of_le_sub_one hhi)
  · rintro rfl
    exact ⟨n.minValue_le_toInt, n.toInt_le, Int64.ofInt_toInt n⟩

theorem toInt32_eq_ok_iff {i : Int} {n : Int32} : toInt32 i = .ok n ↔ n.toInt = i := by
  rw [toInt32, map_fit_eq_ok_iff]
  constructor
  · rintro ⟨hlo, hhi, rfl⟩
    exact Int32.toInt_ofInt_of_le hlo (Int.lt_of_le_sub_one hhi)
  · rintro rfl
    exact ⟨n.minValue_le_toInt, n.toInt_le, Int32.ofInt_toInt n⟩

theorem toUInt64_eq_ok_iff {i : Int} {n : UInt64} : toUInt64 i = .ok n ↔ (n.toNat : Int) = i := by
  have hsize : ((UInt64.size : Nat) : Int) = 2 ^ 64 := rfl
  rw [toUInt64, map_fit_eq_ok_iff]
  constructor
  · rintro ⟨hlo, hhi, rfl⟩
    rw [UInt64.toNat_ofNat', Nat.mod_eq_of_lt (by omega), Int.toNat_of_nonneg hlo]
  · rintro rfl
    have hn := n.toNat_lt
    refine ⟨by omega, by omega, ?_⟩
    rw [Int.toNat_natCast, UInt64.ofNat_toNat]

end RecordSql
