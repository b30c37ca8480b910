/-!
# Binary floating point numbers of 64 bits

A number is kept as its bits: a sign, eleven bits of exponent and 52 bits of fraction. A finite one
has the magnitude `significand * 2 ^ scale`. All arithmetic is exact on natural numbers and rounds
once, to the nearest number, a tie to the even significand.
-/

namespace RecordSql

/-- A floating point number in the interchange format of 64 bits. -/
structure Binary64 where
  bits : UInt64
  deriving DecidableEq, Repr

namespace Binary64

/-! ## Parts -/

/-- Whether the sign bit is set. -/
def isNegative (x : Binary64) : Bool :=
  x.bits.toNat / Nat.pow 2 63 == 1

/-- The eleven bits between the sign and the fraction. -/
def exponentField (x : Binary64) : Nat :=
  x.bits.toNat / Nat.pow 2 52 % Nat.pow 2 11

/-- The low 52 bits. -/
def fractionField (x : Binary64) : Nat :=
  x.bits.toNat % Nat.pow 2 52

/-- No number at all: the exponent field is full and the fraction is not zero. -/
def isNaN (x : Binary64) : Bool :=
  x.exponentField == 2047 && x.fractionField != 0

/-- An infinity: the exponent field is full and the fraction is zero. -/
def isInfinite (x : Binary64) : Bool :=
  x.exponentField == 2047 && x.fractionField == 0

/-- Neither an infinity nor no number. -/
def isFinite (x : Binary64) : Bool :=
  x.exponentField != 2047

/-- The whole number of units of `2 ^ scale` in the magnitude. -/
def significand (x : Binary64) : Nat :=
  if x.exponentField = 0 then x.fractionField else Nat.pow 2 52 + x.fractionField

/-- The power of two that one unit of the significand stands for. -/
def scale (x : Binary64) : Int :=
  if x.exponentField = 0 then -1074 else (x.exponentField : Int) - 1075

/-! ## Rounding -/

/-- The whole number nearest to `num / den`, a tie to the even one. -/
def nearestEven (num den : Nat) : Nat :=
  let floor := num / den
  let rest := num % den
  if 2 * rest < den then floor
  else if den < 2 * rest then floor + 1
  else floor + floor % 2

/-- `num / den / 2 ^ q` as a ratio of natural numbers. -/
def scaled (num den : Nat) (q : Int) : Nat × Nat :=
  (num * Nat.pow 2 (-q).toNat, den * Nat.pow 2 q.toNat)

/-- The scale that leaves 53 bits of `num / den` before the point, but no finer than the finest. -/
def scaleFor (num den : Nat) : Int :=
  let q := (num.log2 : Int) - den.log2 - 52
  let (n, d) := scaled num den q
  max (if n < Nat.pow 2 52 * d then q - 1 else q) (-1074)

/-- The bits, without sign, of an infinity. -/
def infinityBits : Nat :=
  2047 * Nat.pow 2 52

/-- The bits, without sign, of the number nearest to `num / den`; beyond the greatest number, those
    of an infinity. A carry out of the significand runs into the exponent field. -/
def magnitudeBits (num den : Nat) : Nat :=
  if num = 0 then 0
  else
    let q := scaleFor num den
    let (n, d) := scaled num den q
    min ((q + 1074).toNat * Nat.pow 2 52 + nearestEven n d) infinityBits

/-- The number with the given sign and magnitude. -/
def ofMagnitude (negative : Bool) (magnitude : Nat) : Binary64 :=
  ⟨UInt64.ofNat (if negative then Nat.pow 2 63 + magnitude else magnitude)⟩

/-- The number nearest to `± num / den`. -/
def ofRatio (negative : Bool) (num den : Nat) : Binary64 :=
  ofMagnitude negative (magnitudeBits num den)

/-- The number nearest to an integer. -/
def ofInt (i : Int) : Binary64 :=
  ofRatio (i < 0) i.natAbs 1

/-- The number nearest to `± digits * 10 ^ exponent`. Exponents out of all range are settled without
    computing the power. -/
def ofDecimal (negative : Bool) (digits : Nat) (exponent : Int) : Binary64 :=
  let magnitude := exponent + (Nat.toDigits 10 digits).length
  if digits = 0 ∨ magnitude < -400 then ofMagnitude negative 0
  else if 400 < magnitude then ofMagnitude negative infinityBits
  else ofRatio negative (digits * Nat.pow 10 exponent.toNat) (Nat.pow 10 (-exponent).toNat)

/-- The infinity of the given sign. -/
def infinity (negative : Bool) : Binary64 :=
  ofMagnitude negative infinityBits

/-- A value that is no number. -/
def nan : Binary64 :=
  ofMagnitude false (infinityBits + Nat.pow 2 51)

/-! ## Arithmetic -/

/-- The magnitude of a finite number as a ratio of natural numbers. -/
def ratio (x : Binary64) : Nat × Nat :=
  scaled x.significand 1 (-x.scale)

/-- The quotient or product of two positive finite numbers, rounded once. -/
def divide (x y : Binary64) : Binary64 :=
  let (a, b) := x.ratio
  let (c, d) := y.ratio
  ofRatio false (a * d) (b * c)

/-- The product of two positive finite numbers, rounded once. -/
def multiply (x y : Binary64) : Binary64 :=
  let (a, b) := x.ratio
  let (c, d) := y.ratio
  ofRatio false (a * c) (b * d)

/-- The number with its sign bit changed. -/
def negate (x : Binary64) : Binary64 :=
  ofMagnitude (!x.isNegative) (x.bits.toNat % Nat.pow 2 63)

/-! ## Numbers of 32 bits -/

/-- A number in the interchange format of 32 bits, which 64 bits can always hold. -/
def ofBinary32 (bits : UInt32) : Binary64 :=
  let n := bits.toNat
  let negative := n / Nat.pow 2 31 == 1
  let exponent : Nat := n / Nat.pow 2 23 % Nat.pow 2 8
  let fraction : Nat := n % Nat.pow 2 23
  if exponent = 255 then
    if fraction = 0 then infinity negative
    else ofMagnitude negative (infinityBits + Nat.pow 2 51 + fraction % Nat.pow 2 22 * Nat.pow 2 29)
  else
    let (num, den) :=
      if exponent = 0 then scaled fraction 1 149
      else scaled (Nat.pow 2 23 + fraction) 1 (150 - (exponent : Int))
    ofRatio negative num den

end Binary64

end RecordSql
