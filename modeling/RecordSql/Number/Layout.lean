import RecordSql.Number.Shortest

/-!
# Layouts of decimals

How a decimal is written: positionally, or in scientific notation with an exponent. The choices of a
layout are one record.
-/

namespace RecordSql

/-- The choices that one way of writing floating point numbers makes. -/
structure Layout where
  /-- Which of two shortest decimals is written that are equally near. -/
  tie : Tie
  /-- The scientific exponents that are written positionally; all of them if absent. -/
  positional : Option (Int × Int)
  /-- What follows a whole number that is written positionally. -/
  wholeEnding : String
  /-- What stands between the digits and a positive exponent. -/
  positiveMark : String
  /-- What stands between the digits and the magnitude of a negative exponent. -/
  negativeMark : String

namespace Layout

/-- Values shown to a reader are never given an exponent. -/
def plain : Layout := ⟨.upper, none, "", "", ""⟩

/-- Documents use an exponent below `0.00001` and from `1e+16` on, and mark whole numbers as
    floating point ones. -/
def document : Layout := ⟨.even, some (-5, 15), ".0", "e+", "e-"⟩

/-- The digits with the point in its place. -/
def writePositional (l : Layout) (d : Decimal) : List Char :=
  if 0 ≤ d.exponent then
    d.digits ++ List.replicate d.exponent.toNat '0' ++ l.wholeEnding.toList
  else
    let places := (-d.exponent).toNat
    if places < d.digits.length then
      d.digits.take (d.digits.length - places) ++ '.' :: d.digits.drop (d.digits.length - places)
    else '0' :: '.' :: (List.replicate (places - d.digits.length) '0' ++ d.digits)

/-- One digit, the point and the others if there are others, and the exponent. -/
def writeScientific (l : Layout) (d : Decimal) : List Char :=
  let e := d.scientificExponent
  let mark := if e < 0 then l.negativeMark else l.positiveMark
  let mantissa := match d.digits with
    | first :: second :: rest => first :: '.' :: second :: rest
    | short => short
  mantissa ++ mark.toList ++ Nat.toDigits 10 e.natAbs

/-- A decimal in the layout. -/
def writeDecimal (l : Layout) (d : Decimal) : List Char :=
  match l.positional with
  | none => l.writePositional d
  | some (least, greatest) =>
    let e := d.scientificExponent
    if least ≤ e ∧ e ≤ greatest then l.writePositional d else l.writeScientific d

/-- A finite number in the layout. -/
def writeFinite (l : Layout) (x : Binary64) : String :=
  let digits := l.writeDecimal (x.shortest l.tie)
  String.ofList (if x.isNegative then '-' :: digits else digits)

end Layout

/-- A floating point number as a reader sees it. -/
def Binary64.display (x : Binary64) : String :=
  if x.isNaN then "NaN"
  else if x.isInfinite then if x.isNegative then "-inf" else "inf"
  else Layout.plain.writeFinite x

end RecordSql
