import Mathlib.Algebra.Group.Nat.Defs
import Mathlib.Data.List.TakeWhile
import RecordSql.Number.Layout
import RecordSql.Number.Numeral

/-!
# Shortest decimals

The search goes from coarse grids of decimals to fine ones and stops at the first that has a point
which reads back as the number. Of that grid it takes the point nearest to the number.

* `Binary64.Covers`: which points of a grid read back as a number.
* `gridPoint?_eq_none_iff`, `gridPoint?_eq_some`, `offset_le_of_gridPoint?`: what a grid offers.
* `shortest_of_covers`: the search stops at the first grid with a point.
* `writePositional_stripped`: a whole number is written with all its digits.
-/

namespace RecordSql.Binary64

open Numeral

/-! ## Points that read back -/

/-- A number in units of the interval, given as so many times `one`, lies in it. -/
def Interval.Holds (i : Interval) (one v : Nat) : Prop :=
  if i.closed then i.lower * one ≤ v ∧ v ≤ i.upper * one
  else i.lower * one < v ∧ v < i.upper * one

instance (i : Interval) (one v : Nat) : Decidable (i.Holds one v) :=
  inferInstanceAs (Decidable (if i.closed then _ ∧ _ else _ ∧ _))

section Grid

variable (x : Binary64) (k : Int)

/-- The decimal `c * 10 ^ k` reads back as the number. -/
def Covers (c : Nat) : Prop :=
  x.interval.Holds (x.gridUnit k).2 (c * (x.gridUnit k).1)

instance (c : Nat) : Decidable (x.Covers k c) :=
  inferInstanceAs (Decidable (Interval.Holds _ _ _))

/-- How far the decimal `c * 10 ^ k` is from the number. -/
def offset (c : Nat) : Nat :=
  ((c * (x.gridUnit k).1 : Nat) - (x.interval.value * (x.gridUnit k).2 : Nat) : Int).natAbs

/-- The greatest point of the grid that is not above the number. -/
def floorPoint : Nat :=
  x.interval.value * (x.gridUnit k).2 / (x.gridUnit k).1

theorem gridPoint?_eq (tie : Tie) :
    x.gridPoint? tie k =
      match decide (x.Covers k (x.floorPoint k)), decide (x.Covers k (x.floorPoint k + 1)) with
      | true, true =>
        some (if takesLower tie (x.floorPoint k)
          (x.interval.value * (x.gridUnit k).2 % (x.gridUnit k).1) (x.gridUnit k).1
          then x.floorPoint k else x.floorPoint k + 1)
      | true, false => some (x.floorPoint k)
      | false, true => some (x.floorPoint k + 1)
      | false, false => none := by
  have hinside : ∀ c : Nat, decide (x.Covers k c) =
      if x.interval.closed then x.interval.lower * (x.gridUnit k).2 ≤ c * (x.gridUnit k).1 &&
        c * (x.gridUnit k).1 ≤ x.interval.upper * (x.gridUnit k).2
      else x.interval.lower * (x.gridUnit k).2 < c * (x.gridUnit k).1 &&
        c * (x.gridUnit k).1 < x.interval.upper * (x.gridUnit k).2 := by
    intro c
    unfold Covers Interval.Holds
    split
    · exact Bool.decide_and _ _
    · exact Bool.decide_and _ _
  rw [hinside, hinside]
  rfl

/-! ## One grid -/

theorem gridUnit_pos : 0 < (x.gridUnit k).1 ∧ 0 < (x.gridUnit k).2 :=
  ⟨Nat.mul_pos (Nat.pow_pos (by decide)) (Nat.pow_pos (by decide)),
    Nat.mul_pos (Nat.pow_pos (by decide)) (Nat.pow_pos (by decide))⟩

variable {x k}

/-- The interval has no gaps below the number. -/
theorem Interval.Holds.of_le {x : Binary64} {one v w : Nat} (h : x.interval.Holds one v)
    (hone : 0 < one) (hle : v ≤ w) (hw : w ≤ x.interval.value * one) : x.interval.Holds one w := by
  have hupper : x.interval.value * one < x.interval.upper * one :=
    Nat.mul_lt_mul_of_pos_right (Nat.lt_add_of_pos_right (by decide)) hone
  unfold Interval.Holds at h ⊢
  split at h
  · rw [if_pos ‹_›]
    omega
  · rw [if_neg ‹_›]
    omega

/-- The interval has no gaps above the number. -/
theorem Interval.Holds.of_ge {x : Binary64} {one v w : Nat} (h : x.interval.Holds one v)
    (hle : w ≤ v) (hw : x.interval.value * one < w) : x.interval.Holds one w := by
  have hlower : x.interval.lower * one ≤ x.interval.value * one :=
    Nat.mul_le_mul_right _ (Nat.sub_le _ _)
  unfold Interval.Holds at h ⊢
  split at h
  · rw [if_pos ‹_›]
    omega
  · rw [if_neg ‹_›]
    omega

/-- The number lies between the two points of the grid that are tried. -/
theorem floorPoint_le_lt (x : Binary64) (k : Int) :
    x.floorPoint k * (x.gridUnit k).1 ≤ x.interval.value * (x.gridUnit k).2 ∧
      x.interval.value * (x.gridUnit k).2 < (x.floorPoint k + 1) * (x.gridUnit k).1 := by
  refine ⟨Nat.div_mul_le_self _ _, ?_⟩
  rw [Nat.add_one_mul]
  exact Nat.lt_div_mul_add (x.gridUnit_pos k).1

theorem covers_floorPoint {c : Nat} (h : x.Covers k c) (hc : c ≤ x.floorPoint k) :
    x.Covers k (x.floorPoint k) :=
  Interval.Holds.of_le h (x.gridUnit_pos k).2 (Nat.mul_le_mul_right _ hc) (x.floorPoint_le_lt k).1

theorem covers_floorPoint_add_one {c : Nat} (h : x.Covers k c) (hc : x.floorPoint k < c) :
    x.Covers k (x.floorPoint k + 1) :=
  Interval.Holds.of_ge h (Nat.mul_le_mul_right _ hc) (x.floorPoint_le_lt k).2

/-- A grid offers nothing just if none of its points reads back as the number. -/
theorem gridPoint?_eq_none_iff {tie : Tie} :
    x.gridPoint? tie k = none ↔ ∀ c, ¬ x.Covers k c := by
  rw [gridPoint?_eq]
  constructor
  · intro h c hc
    obtain hlt | hle := Nat.lt_or_ge (x.floorPoint k) c
    · rw [decide_eq_true (covers_floorPoint_add_one hc hlt)] at h
      split at h <;> trivial
    · rw [decide_eq_true (covers_floorPoint hc hle)] at h
      split at h <;> trivial
  · intro h
    simp only [decide_eq_false (h _)]

/-! ## Distances on a grid -/

theorem offset_floorPoint_le {c : Nat} (hc : c ≤ x.floorPoint k) :
    x.offset k (x.floorPoint k) ≤ x.offset k c := by
  have hle : c * (x.gridUnit k).1 ≤ x.floorPoint k * (x.gridUnit k).1 := Nat.mul_le_mul_right _ hc
  have := x.floorPoint_le_lt k
  unfold offset
  omega

theorem offset_floorPoint_add_one_le {c : Nat} (hc : x.floorPoint k < c) :
    x.offset k (x.floorPoint k + 1) ≤ x.offset k c := by
  have hle : (x.floorPoint k + 1) * (x.gridUnit k).1 ≤ c * (x.gridUnit k).1 :=
    Nat.mul_le_mul_right _ hc
  have := x.floorPoint_le_lt k
  unfold offset
  omega

/-- Of two neighbours the nearer one is taken. -/
theorem offset_of_takesLower (x : Binary64) (k : Int) (tie : Tie) :
    if takesLower tie (x.floorPoint k) (x.interval.value * (x.gridUnit k).2 % (x.gridUnit k).1)
        (x.gridUnit k).1
    then x.offset k (x.floorPoint k) ≤ x.offset k (x.floorPoint k + 1)
    else x.offset k (x.floorPoint k + 1) ≤ x.offset k (x.floorPoint k) := by
  have hdiv : x.floorPoint k * (x.gridUnit k).1 +
      x.interval.value * (x.gridUnit k).2 % (x.gridUnit k).1 =
        x.interval.value * (x.gridUnit k).2 := Nat.div_add_mod' _ _
  have hlt : x.interval.value * (x.gridUnit k).2 % (x.gridUnit k).1 < (x.gridUnit k).1 :=
    Nat.mod_lt _ (x.gridUnit_pos k).1
  unfold offset
  rw [Nat.add_one_mul]
  split
  case isTrue h =>
    simp only [takesLower, Bool.or_eq_true, Bool.and_eq_true, decide_eq_true_eq, beq_iff_eq] at h
    omega
  case isFalse h =>
    simp only [takesLower, Bool.or_eq_true, decide_eq_true_eq, not_or] at h
    omega

/-- What is offered is one of the two points that are tried, and the nearer one if the other reads
    back as the number too. -/
theorem gridPoint?_eq_some {tie : Tie} {c : Nat} (h : x.gridPoint? tie k = some c) :
    x.Covers k c ∧
      (c = x.floorPoint k ∧
          (x.Covers k (c + 1) → x.offset k c ≤ x.offset k (c + 1)) ∨
        c = x.floorPoint k + 1 ∧
          (x.Covers k (x.floorPoint k) → x.offset k c ≤ x.offset k (x.floorPoint k))) := by
  rw [gridPoint?_eq] at h
  have htie := x.offset_of_takesLower k tie
  split at h
  case h_1 hbelow habove =>
    obtain rfl := Option.some.inj h
    split
    case isTrue hlower =>
      rw [if_pos hlower] at htie
      exact ⟨of_decide_eq_true hbelow, .inl ⟨rfl, fun _ => htie⟩⟩
    case isFalse hupper =>
      rw [if_neg hupper] at htie
      exact ⟨of_decide_eq_true habove, .inr ⟨rfl, fun _ => htie⟩⟩
  case h_2 hbelow habove =>
    obtain rfl := Option.some.inj h
    exact ⟨of_decide_eq_true hbelow,
      .inl ⟨rfl, fun hcovers => absurd hcovers (of_decide_eq_false habove)⟩⟩
  case h_3 hbelow habove =>
    obtain rfl := Option.some.inj h
    exact ⟨of_decide_eq_true habove,
      .inr ⟨rfl, fun hcovers => absurd hcovers (of_decide_eq_false hbelow)⟩⟩
  case h_4 => cases h

/-- No point of the grid that reads back as the number is nearer to it than the one offered. -/
theorem offset_le_of_gridPoint? {tie : Tie} {c d : Nat} (h : x.gridPoint? tie k = some c)
    (hd : x.Covers k d) : x.offset k c ≤ x.offset k d := by
  obtain ⟨-, ⟨rfl, habove⟩ | ⟨rfl, hbelow⟩⟩ := gridPoint?_eq_some h
  · obtain hlt | hle := Nat.lt_or_ge (x.floorPoint k) d
    · exact Nat.le_trans (habove (covers_floorPoint_add_one hd hlt))
        (offset_floorPoint_add_one_le hlt)
    · exact offset_floorPoint_le hle
  · obtain hlt | hle := Nat.lt_or_ge (x.floorPoint k) d
    · exact offset_floorPoint_add_one_le hlt
    · exact Nat.le_trans (hbelow (covers_floorPoint hd hle)) (offset_floorPoint_le hle)

end Grid

/-! ## The search -/

theorem findSome?_range {α : Type} {f : Nat → Option α} {n : Nat} {a : α}
    (h : (List.range n).findSome? f = some a) :
    ∃ m < n, f m = some a ∧ ∀ l < m, f l = none := by
  obtain ⟨before, m, behind, hrange, hm, hnone⟩ := List.findSome?_eq_some_iff.mp h
  have hmem : m ∈ List.range n := hrange ▸ List.mem_append_right _ List.mem_cons_self
  have hsorted : (before ++ m :: behind).Pairwise (· < ·) := hrange ▸ List.pairwise_lt_range
  refine ⟨m, List.mem_range.mp hmem, hm, fun l hl => hnone l ?_⟩
  have hl' : l ∈ before ++ m :: behind :=
    hrange ▸ List.mem_range.mpr (Nat.lt_trans hl (List.mem_range.mp hmem))
  obtain hbefore | hbehind := List.mem_append.mp hl'
  · exact hbefore
  · obtain rfl | hbehind := List.mem_cons.mp hbehind
    · exact absurd hl (Nat.lt_irrefl l)
    · have hlt := List.rel_of_pairwise_cons (List.pairwise_append.mp hsorted).2.1 hbehind
      omega

/-- The search stops at the first grid with a point that reads back as the number. -/
theorem shortest_of_covers {x : Binary64} (tie : Tie) {n c : Nat} (hn : n < 17)
    (hx : x.significand ≠ 0) (h : x.Covers (x.decimalExponent - n) c) :
    ∃ m ≤ n, ∃ d, x.gridPoint? tie (x.decimalExponent - m) = some d ∧
      x.shortest tie = Decimal.stripped (digits d) (x.decimalExponent - m) ∧
        ∀ l < m, ∀ e, ¬ x.Covers (x.decimalExponent - l) e := by
  unfold shortest
  rw [if_neg hx]
  dsimp only
  cases hpoint : (List.range 17).findSome? fun n : Nat =>
      (x.gridPoint? tie (x.decimalExponent - n)).map fun c =>
        Decimal.stripped (Nat.toDigits 10 c) (x.decimalExponent - n) with
  | none =>
    have hnone := List.findSome?_eq_none_iff.mp hpoint n (List.mem_range.mpr hn)
    rw [Option.map_eq_none_iff, gridPoint?_eq_none_iff] at hnone
    exact absurd h (hnone c)
  | some d =>
    obtain ⟨m, -, hm, hfirst⟩ := findSome?_range hpoint
    obtain ⟨d, hd, rfl⟩ := Option.map_eq_some_iff.mp hm
    refine ⟨m, ?_, d, hd, rfl, ?_⟩
    · by_contra hlt
      have hnone := hfirst n (Nat.not_le.mp hlt)
      rw [Option.map_eq_none_iff, gridPoint?_eq_none_iff] at hnone
      exact hnone c h
    · intro l hl
      have hnone := hfirst l hl
      rwa [Option.map_eq_none_iff, gridPoint?_eq_none_iff] at hnone

/-! ## Whole numbers -/

theorem digits_mul_pow {c : Nat} (hc : 0 < c) (k : Nat) :
    digits (c * 10 ^ k) = digits c ++ List.replicate k '0' := by
  induction k with
  | zero => simp
  | succ k ih =>
    have hpos : 0 < c * 10 ^ k := Nat.mul_pos hc (Nat.pow_pos (by decide))
    have hzero : digits 0 = ['0'] := by decide
    have happend : digits (c * 10 ^ k) ++ digits 0 = digits (10 * (c * 10 ^ k) + 0) :=
      Nat.toDigits_append_toDigits (by decide) hpos (by decide)
    have hpow : c * 10 ^ (k + 1) = 10 * (c * 10 ^ k) + 0 := by
      rw [Nat.pow_succ, ← Nat.mul_assoc, Nat.mul_comm 10, Nat.add_zero]
    rw [hpow, ← happend, ih, hzero, List.append_assoc, ← List.replicate_succ']

/-- Zeros at the end are only moved into the exponent. -/
theorem stripped_append (ds : List Char) (e : Int) :
    (Decimal.stripped ds e).digits ++
      List.replicate (ds.length - (Decimal.stripped ds e).digits.length) '0' = ds := by
  have hsplit :
      (Decimal.stripped ds e).digits ++ (ds.reverse.takeWhile (· == '0')).reverse = ds := by
    show (ds.reverse.dropWhile (· == '0')).reverse ++ _ = ds
    rw [← List.reverse_append, List.takeWhile_append_dropWhile, List.reverse_reverse]
  have hzeros : ds.reverse.takeWhile (· == '0') =
      List.replicate (ds.length - (Decimal.stripped ds e).digits.length) '0' := by
    have hsum := congrArg List.length hsplit
    rw [List.length_append, List.length_reverse] at hsum
    refine List.eq_replicate_iff.mpr ⟨by omega, fun c hc => ?_⟩
    simpa using List.mem_takeWhile_imp hc
  rwa [hzeros, List.reverse_replicate] at hsplit

/-- A whole number is written with all its digits. -/
theorem writePositional_stripped {c k : Nat} (hc : 0 < c) :
    Layout.plain.writePositional (Decimal.stripped (digits c) k) = digits (c * 10 ^ k) := by
  have hexponent : (Decimal.stripped (digits c) k).exponent =
      (k + ((digits c).length - (Decimal.stripped (digits c) k).digits.length) : Nat) := rfl
  unfold Layout.writePositional
  rw [hexponent, if_pos (Int.natCast_nonneg _), Int.toNat_natCast, Nat.add_comm,
    ← List.replicate_append_replicate, ← List.append_assoc, stripped_append, digits_mul_pow hc]
  exact List.append_nil _

end RecordSql.Binary64
