import RecordSql.Proofs.Number.Shortest

/-!
# Wide integers as floating point numbers

Beyond the signed words, up to `2 ^ 64`, floating point numbers are `2048` apart. An integer there
becomes the one nearest to it, and of that one the shortest decimal is shown that reads back as it,
which is a multiple of a thousand.

* `nearestEven_eq_iff`: what the rounding to a whole number comes to.
* `Binary64.wide`: the floating point numbers of these integers.
* `Binary64.display_wide`: what is shown of them.
* `Binary64.ofInt_wide`, `Binary64.display_ofInt_wide`: so what is shown of the integers.
-/

namespace RecordSql

open Numeral

/-- The multiple of `u` nearest to a number, of two the even one. -/
def nearestMultiple (u n : Nat) : Nat :=
  u * Binary64.nearestEven n u

/-- The whole number shown of a floating point number between `2 ^ 63` and `2 ^ 64`: a multiple of
    ten thousand if one reads back as it, and the nearest multiple of a thousand otherwise. -/
def shownOf (x : Nat) : Nat :=
  let coarse := nearestMultiple 10000 x
  if nearestMultiple 2048 coarse = x then coarse else nearestMultiple 1000 x

/-- The whole number shown of an integer between `2 ^ 63` and `2 ^ 64` that has become a floating
    point number. -/
def shown (n : Nat) : Nat :=
  shownOf (nearestMultiple 2048 n)

namespace Binary64

/-! ## Rounding -/

/-- The quotient is rounded down up to half a unit, and up from half a unit on. -/
theorem nearestEven_cases (n u : Nat) :
    nearestEven n u = n / u ∧ 2 * (n % u) ≤ u ∧ (2 * (n % u) = u → n / u % 2 = 0) ∨
      nearestEven n u = n / u + 1 ∧ u ≤ 2 * (n % u) ∧ (2 * (n % u) = u → n / u % 2 = 1) := by
  unfold nearestEven
  dsimp only
  split
  case isTrue hdown =>
    exact .inl ⟨rfl, by omega, by omega⟩
  case isFalse =>
    split
    case isTrue hup =>
      exact .inr ⟨rfl, by omega, by omega⟩
    case isFalse =>
      -- half a unit: the quotient if it is even, and the next number otherwise
      obtain heven | hodd := Nat.mod_two_eq_zero_or_one (n / u)
      · exact .inl ⟨by omega, by omega, fun _ => heven⟩
      · exact .inr ⟨by omega, by omega, fun _ => hodd⟩

/-- The rounded number is at most half a unit away, and even if it is just that far. -/
theorem nearestEven_eq_iff {n u m : Nat} (hu : 0 < u) :
    nearestEven n u = m ↔
      2 * n ≤ 2 * (u * m) + u ∧ 2 * (u * m) ≤ 2 * n + u ∧
        (2 * n = 2 * (u * m) + u ∨ 2 * (u * m) = 2 * n + u → m % 2 = 0) := by
  have hdiv : u * (n / u) + n % u = n := Nat.div_add_mod n u
  have hlt : n % u < u := Nat.mod_lt n hu
  have hsucc : u * (n / u + 1) = u * (n / u) + u := Nat.mul_succ _ _
  -- another number than the quotient and the next is more than half a unit away
  have hbelow : m < n / u → u * m + u ≤ u * (n / u) := Nat.mul_le_mul_left u
  have habove : n / u + 1 < m → u * (n / u + 1) + u ≤ u * m := Nat.mul_le_mul_left u
  have hside : m < n / u ∨ m = n / u ∨ m = n / u + 1 ∨ n / u + 1 < m := by omega
  obtain ⟨heq, hhalf, heven⟩ | ⟨heq, hhalf, hodd⟩ := nearestEven_cases n u
  · rw [heq]
    obtain hm | rfl | rfl | hm := hside <;> omega
  · rw [heq]
    obtain hm | rfl | rfl | hm := hside <;> omega

theorem nearestEven_near (n : Nat) {u : Nat} (hu : 0 < u) :
    2 * n ≤ 2 * (u * nearestEven n u) + u ∧ 2 * (u * nearestEven n u) ≤ 2 * n + u := by
  obtain ⟨hbelow, habove, -⟩ := (nearestEven_eq_iff hu).mp (Eq.refl (nearestEven n u))
  exact ⟨hbelow, habove⟩

/-! ## The numbers from `2 ^ 63` to `2 ^ 64` -/

/-- The floating point number `2048 * m`, for `m` between `2 ^ 52` and `2 ^ 53`. -/
def wide (m : Nat) : Binary64 :=
  ofMagnitude false (1085 * 2 ^ 52 + m)

section Wide

variable {m : Nat}

theorem toNat_wide (hm : m ≤ 2 ^ 53) : (wide m).bits.toNat = 1085 * 2 ^ 52 + m := by
  show (UInt64.ofNat (1085 * 2 ^ 52 + m)).toNat = _
  rw [UInt64.toNat_ofNat', Nat.mod_eq_of_lt (by omega)]

theorem isNegative_wide (hm : m ≤ 2 ^ 53) : (wide m).isNegative = false := by
  unfold isNegative
  rw [toNat_wide hm, Nat.pow_eq, beq_eq_false_iff_ne]
  omega

/-! ### Up to the greater power of two -/

variable (hlo : 2 ^ 52 ≤ m) (hhi : m < 2 ^ 53)
include hlo hhi

theorem exponentField_wide : (wide m).exponentField = 1086 := by
  unfold exponentField
  rw [toNat_wide (by omega), Nat.pow_eq, Nat.pow_eq]
  omega

theorem fractionField_wide : (wide m).fractionField = m - 2 ^ 52 := by
  unfold fractionField
  rw [toNat_wide (by omega), Nat.pow_eq]
  omega

theorem significand_wide : (wide m).significand = m := by
  unfold significand
  rw [exponentField_wide hlo hhi, fractionField_wide hlo hhi, Nat.pow_eq, if_neg (by decide)]
  omega

theorem scale_wide : (wide m).scale = 11 := by
  unfold scale
  rw [exponentField_wide hlo hhi]
  rfl

theorem ratio_wide : (wide m).ratio = (2048 * m, 1) := by
  unfold ratio
  rw [significand_wide hlo hhi, scale_wide hlo hhi, Nat.mul_comm]
  rfl

/-- The numbers have nineteen or twenty digits. -/
theorem decimalExponent_wide :
    ∃ top : Nat, (top = 18 ∨ top = 19) ∧ (wide m).decimalExponent = top := by
  have hmin : 18 < (digits (2048 * m)).length := by
    rw [← Nat.not_le, digits, Nat.length_toDigits_le_iff (by decide) (by decide)]
    omega
  have hmax : (digits (2048 * m)).length ≤ 20 := by
    rw [digits, Nat.length_toDigits_le_iff (by decide) (by decide)]
    omega
  refine ⟨(digits (2048 * m)).length - 1, by omega, ?_⟩
  unfold decimalExponent
  rw [ratio_wide hlo hhi]
  dsimp only
  rw [if_pos (by omega), Nat.div_one]
  show ((digits (2048 * m)).length : Int) - 1 = _
  omega

end Wide

/-! ### Between the powers of two -/

section Between

variable {m : Nat} (hlo : 2 ^ 52 < m) (hhi : m < 2 ^ 53)
include hlo hhi

theorem interval_wide : (wide m).interval = ⟨4 * m - 2, 4 * m, 4 * m + 2, m % 2 == 0⟩ := by
  unfold interval
  dsimp only
  rw [significand_wide hlo.le hhi, fractionField_wide hlo.le hhi, if_neg (by omega)]

theorem gridUnit_wide (k : Nat) : (wide m).gridUnit k = (10 ^ k, 512) := by
  have hzero : (-(k : Int)).toNat = 0 := by omega
  unfold gridUnit
  rw [scale_wide hlo.le hhi, Int.toNat_natCast, hzero]
  simp

/-- A point of a grid reads back as the number just if the number is the nearest one. -/
theorem covers_wide_iff {k c : Nat} :
    (wide m).Covers k c ↔ nearestEven (c * 10 ^ k) 2048 = m := by
  rw [nearestEven_eq_iff (by decide)]
  unfold Covers Interval.Holds
  rw [gridUnit_wide hlo hhi, interval_wide hlo hhi]
  dsimp only
  split
  case isTrue heven =>
    rw [beq_iff_eq] at heven
    omega
  case isFalse hodd =>
    rw [beq_iff_eq] at hodd
    omega

theorem offset_wide (k c : Nat) :
    (wide m).offset k c = ((c * 10 ^ k : Nat) - (2048 * m : Nat) : Int).natAbs := by
  unfold offset
  rw [gridUnit_wide hlo hhi, interval_wide hlo hhi]
  dsimp only
  omega

end Between

/-! ## What is shown -/

section Shown

variable {m : Nat}

theorem shownOf_coarse {e : Nat} (he : nearestEven (10000 * e) 2048 = m) :
    shownOf (2048 * m) = 10000 * e := by
  have hcoarse : nearestEven (2048 * m) 10000 = e := by
    rw [nearestEven_eq_iff (by decide)] at he ⊢
    omega
  unfold shownOf nearestMultiple
  dsimp only
  rw [hcoarse, he, if_pos rfl]

theorem shownOf_fine (hnone : ∀ e, nearestEven (10000 * e) 2048 ≠ m) :
    shownOf (2048 * m) = 1000 * nearestEven (2048 * m) 1000 := by
  have hcoarse : 2048 * nearestEven (10000 * nearestEven (2048 * m) 10000) 2048 ≠ 2048 * m :=
    fun heq => hnone _ (Nat.eq_of_mul_eq_mul_left (by decide) heq)
  exact if_neg hcoarse

theorem shown_eq (n : Nat) :
    shown n = shownOf (2048 * nearestEven n 2048) := rfl

theorem thousand_dvd_shown (n : Nat) : 1000 ∣ shown n := by
  rw [shown_eq]
  by_cases hcoarse : ∃ e, nearestEven (10000 * e) 2048 = nearestEven n 2048
  · obtain ⟨e, he⟩ := hcoarse
    rw [shownOf_coarse he]
    omega
  · rw [shownOf_fine (not_exists.mp hcoarse)]
    exact Nat.dvd_mul_right _ _

/-- A multiple of ten thousand is shown as it is. -/
theorem shown_of_dvd {n : Nat} (h : 10000 ∣ n) : shown n = n := by
  obtain ⟨e, rfl⟩ := h
  rw [shown_eq, shownOf_coarse rfl]

/-- A multiple of a thousand is near enough to be rounded to the number. -/
theorem nearestEven_thousands :
    nearestEven (nearestEven (2048 * m) 1000 * 10 ^ 3) 2048 = m := by
  have hnear := nearestEven_near (2048 * m) (by decide : 0 < 1000)
  rw [nearestEven_eq_iff (by decide)]
  omega

/-- No other multiple of a thousand is as near, since none is half a thousand away. -/
theorem eq_nearestEven_of_offset_le {d : Nat}
    (h : ((d * 10 ^ 3 : Nat) - (2048 * m : Nat) : Int).natAbs ≤
      ((nearestEven (2048 * m) 1000 * 10 ^ 3 : Nat) - (2048 * m : Nat) : Int).natAbs) :
    d = nearestEven (2048 * m) 1000 := by
  have hnear := nearestEven_near (2048 * m) (by decide : 0 < 1000)
  omega

variable (hlo : 2 ^ 52 < m) (hhi : m < 2 ^ 53)
include hlo hhi

/-- The search stops at the multiple of ten thousand if there is one, for the interval has room for
    no other, and else at the thousands. -/
theorem writePositional_wide (tie : Tie) :
    Layout.plain.writePositional ((wide m).shortest tie) = digits (shownOf (2048 * m)) := by
  obtain ⟨top, htop, hexponent⟩ := decimalExponent_wide hlo.le hhi
  have hgrid : ∀ j ≤ top, (wide m).decimalExponent - (j : Nat) = ((top - j : Nat) : Int) := by
    intro j hj
    rw [hexponent]
    omega
  have hthree : top - (top - 3) = 3 := by omega
  have hfine : (wide m).Covers ((wide m).decimalExponent - (top - 3 : Nat))
      (nearestEven (2048 * m) 1000) := by
    rw [hgrid _ (by omega), hthree, covers_wide_iff hlo hhi]
    exact nearestEven_thousands
  have hsignificand : (wide m).significand ≠ 0 := by
    rw [significand_wide hlo.le hhi]
    omega
  obtain ⟨j, hj, d, hpoint, hshortest, hfirst⟩ :=
    shortest_of_covers tie (by omega) hsignificand hfine
  have hcovers := (gridPoint?_eq_some hpoint).1
  rw [hgrid j (by omega), covers_wide_iff hlo hhi] at hcovers
  have hpos : 0 < d := by
    by_contra hzero
    rw [Nat.eq_zero_of_not_pos hzero, Nat.zero_mul, nearestEven_eq_iff (by decide)] at hcovers
    omega
  rw [hshortest, hgrid j (by omega), writePositional_stripped hpos]
  congr 1
  obtain hcoarse | rfl : 4 ≤ top - j ∨ j = top - 3 := by omega
  · obtain ⟨k, hk⟩ := Nat.exists_eq_add_of_le hcoarse
    have hmultiple : d * 10 ^ (top - j) = 10000 * (d * 10 ^ k) := by
      rw [hk, Nat.pow_add, ← Nat.mul_assoc, Nat.mul_right_comm, Nat.mul_comm (d * 10 ^ k)]
    rw [hmultiple] at hcovers ⊢
    exact (shownOf_coarse hcovers).symm
  · have hnone : ∀ e, nearestEven (10000 * e) 2048 ≠ m := by
      intro e he
      have hnot := hfirst (top - 4) (by omega) e
      have hfour : top - (top - 4) = 4 := by omega
      rw [hgrid _ (by omega), hfour, covers_wide_iff hlo hhi, Nat.mul_comm] at hnot
      exact hnot he
    have hnear := offset_le_of_gridPoint? hpoint hfine
    rw [hgrid _ (by omega), hthree, offset_wide hlo hhi, offset_wide hlo hhi] at hnear
    rw [hthree, eq_nearestEven_of_offset_le hnear, shownOf_fine hnone]
    omega

theorem display_wide_between : (wide m).display = String.ofList (digits (shownOf (2048 * m))) := by
  have hfinite : (wide m).isNaN = false ∧ (wide m).isInfinite = false := by
    unfold isNaN isInfinite
    rw [exponentField_wide hlo.le hhi]
    exact ⟨rfl, rfl⟩
  unfold display Layout.writeFinite
  rw [hfinite.1, hfinite.2, isNegative_wide (by omega)]
  exact congrArg String.ofList (writePositional_wide hlo hhi _)

end Shown

/-- What is shown of a floating point number from `2 ^ 63` to `2 ^ 64`. Below each of the powers of
    two the numbers are nearer to each other, so that these two are looked at on their own. -/
theorem display_wide {m : Nat} (hlo : 2 ^ 52 ≤ m) (hhi : m ≤ 2 ^ 53) :
    (wide m).display = String.ofList (digits (shownOf (2048 * m))) := by
  obtain rfl | hlo := Nat.eq_or_lt_of_le hlo
  · decide +kernel
  · obtain rfl | hhi := Nat.eq_or_lt_of_le hhi
    · decide +kernel
    · exact display_wide_between hlo hhi

theorem ratio_wide_le {m : Nat} (hlo : 2 ^ 52 ≤ m) (hhi : m ≤ 2 ^ 53) :
    (wide m).ratio = (2048 * m, 1) := by
  obtain rfl | hhi := Nat.eq_or_lt_of_le hhi
  · decide +kernel
  · exact ratio_wide hlo hhi

/-! ## Integers as floating point numbers -/

section Integers

variable {n : Nat} (hlo : 2 ^ 63 ≤ n) (hhi : n < 2 ^ 64)
include hlo hhi

theorem nearestEven_bounds : 2 ^ 52 ≤ nearestEven n 2048 ∧ nearestEven n 2048 ≤ 2 ^ 53 := by
  have hnear := nearestEven_near n (by decide : 0 < 2048)
  omega

theorem scaleFor_wide : scaleFor n 1 = 11 := by
  have hlog : n.log2 = 63 := (Nat.log2_eq_iff (by omega)).mpr ⟨hlo, hhi⟩
  have hone : (1 : Nat).log2 = 0 := by decide
  have hscale : ((63 : Nat) : Int) - (0 : Nat) - 52 = 11 := by decide
  unfold scaleFor
  dsimp only
  rw [hlog, hone, hscale]
  unfold scaled
  dsimp only
  have hunits : Nat.pow 2 (-(11 : Int)).toNat = 1 ∧ 1 * Nat.pow 2 (11 : Int).toNat = 2048 :=
    ⟨rfl, rfl⟩
  rw [hunits.1, hunits.2, Nat.pow_eq, if_neg (by omega)]
  rfl

/-- An integer becomes the floating point number nearest to it. -/
theorem ofInt_wide : ofInt n = wide (nearestEven n 2048) := by
  have hbounds := nearestEven_bounds hlo hhi
  have hnegative : ¬ (n : Int) < 0 := by omega
  have hinfinity : infinityBits = 2047 * 2 ^ 52 := rfl
  unfold ofInt ofRatio magnitudeBits
  rw [Int.natAbs_natCast, if_neg (by omega), scaleFor_wide hlo hhi, decide_eq_false hnegative]
  unfold scaled wide
  dsimp only
  have hunits : n * Nat.pow 2 (-(11 : Int)).toNat = n ∧ 1 * Nat.pow 2 (11 : Int).toNat = 2048 :=
    ⟨Nat.mul_one n, rfl⟩
  have hfield : ((11 : Int) + 1074).toNat = 1085 := rfl
  rw [hunits.1, hunits.2, hfield, min_eq_left (by rw [hinfinity, Nat.pow_eq]; omega), Nat.pow_eq]

/-- Its value is the multiple of `2048` nearest to the integer. -/
theorem ratio_ofInt_wide : (ofInt n).ratio = (nearestMultiple 2048 n, 1) := by
  obtain ⟨hmin, hmax⟩ := nearestEven_bounds hlo hhi
  rw [ofInt_wide hlo hhi, ratio_wide_le hmin hmax]
  rfl

theorem display_ofInt_wide : (ofInt n).display = String.ofList (digits (shown n)) := by
  obtain ⟨hmin, hmax⟩ := nearestEven_bounds hlo hhi
  rw [ofInt_wide hlo hhi, display_wide hmin hmax]
  rfl

end Integers

end Binary64

end RecordSql
