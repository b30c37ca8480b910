import RecordSql.Number.Binary64

/-!
# The shortest decimal of a floating point number

Every finite number is the one nearest to all decimals of an interval around it; the ends belong to
the interval if the significand is even. Among the decimals of the interval with the fewest digits,
the one nearest to the number is chosen. Where two are equally near, the caller says which.

For each count of digits only the two neighbours of the number on the grid of that many digits have
to be tried: if a point of the grid lies in the interval, so does one of the two.
-/

namespace RecordSql

/-- The number `digits * 10 ^ exponent`. -/
structure Decimal where
  digits : List Char
  exponent : Int
  deriving DecidableEq, Repr

namespace Decimal

/-- The same number without zeros at its end. -/
def stripped (ds : List Char) (exponent : Int) : Decimal :=
  let kept := (ds.reverse.dropWhile (· == '0')).reverse
  ⟨kept, exponent + (ds.length - kept.length : Nat)⟩

/-- The exponent of the number in scientific notation, with one digit before the point. -/
def scientificExponent (d : Decimal) : Int :=
  d.exponent + d.digits.length - 1

end Decimal

/-- Which of two neighbours is taken that are equally near. -/
inductive Tie
  | upper
  /-- The one whose last digit is even. -/
  | even
  deriving DecidableEq, Repr

namespace Binary64

/-! ## The interval of a number -/

/-- The decimals that read back as a number, in units of a quarter of `2 ^ scale`. -/
structure Interval where
  lower : Nat
  value : Nat
  upper : Nat
  closed : Bool

/-- The interval of a finite number. Below a power of two the next number is only half as far. -/
def interval (x : Binary64) : Interval :=
  let m := x.significand
  let below := if x.fractionField = 0 ∧ 1 < x.exponentField then 1 else 2
  ⟨4 * m - below, 4 * m, 4 * m + 2, m % 2 == 0⟩

/-! ## Points of a decimal grid -/

/-- `10 ^ k` in the units of the interval, as a ratio of natural numbers. -/
def gridUnit (x : Binary64) (k : Int) : Nat × Nat :=
  let q := x.scale - 2
  (Nat.pow 10 k.toNat * Nat.pow 2 (-q).toNat, Nat.pow 10 (-k).toNat * Nat.pow 2 q.toNat)

/-- Whether a number between `below` and `below + 1`, `rest / unit` above the former, is taken down.
    -/
def takesLower (tie : Tie) (below rest unit : Nat) : Bool :=
  2 * rest < unit || (2 * rest == unit && tie == .even && below % 2 == 0)

/-- The neighbour of the number among the multiples of `10 ^ k` that lies in its interval; of two,
    the nearer one. -/
def gridPoint? (tie : Tie) (x : Binary64) (k : Int) : Option Nat :=
  let i := x.interval
  let (unit, one) := x.gridUnit k
  let inside (c : Nat) : Bool :=
    if i.closed then i.lower * one ≤ c * unit && c * unit ≤ i.upper * one
    else i.lower * one < c * unit && c * unit < i.upper * one
  let below := i.value * one / unit
  let rest := i.value * one % unit
  match inside below, inside (below + 1) with
  | true, true => some (if takesLower tie below rest unit then below else below + 1)
  | true, false => some below
  | false, true => some (below + 1)
  | false, false => none

/-- The exponent of the number in scientific notation. -/
def decimalExponent (x : Binary64) : Int :=
  let (num, den) := x.ratio
  if den ≤ num then (Nat.toDigits 10 (num / den)).length - 1
  else -((Nat.toDigits 10 ((den + num - 1) / num - 1)).length : Int)

/-- The shortest decimal of a finite number; zero has the single digit `0`. Seventeen digits are
    always enough. -/
def shortest (tie : Tie) (x : Binary64) : Decimal :=
  if x.significand = 0 then ⟨['0'], 0⟩
  else
    let top := x.decimalExponent
    let point := (List.range 17).findSome? fun (n : Nat) =>
      (x.gridPoint? tie (top - n)).map fun c => Decimal.stripped (Nat.toDigits 10 c) (top - n)
    point.getD ⟨['0'], 0⟩

end Binary64

end RecordSql
