import RecordSql.Number.Numeral
import RecordSql.Number.Binary64

/-!
# Reading floating point numerals

A numeral is an optional sign before a word (`inf`, `infinity` or `nan` in any case) or before
digits with an optional point among or around them and an optional exponent. It stands for the
number nearest to the decimal it spells.
-/

namespace RecordSql.Numeral

/-- The parts of a decimal numeral. -/
structure Parts where
  negative : Bool
  whole : List Char
  fraction : List Char
  exponent : Int

/-- Takes an optional sign off the front; the flag is set for a minus sign. -/
def splitSign : List Char → Bool × List Char
  | '-' :: cs => (true, cs)
  | '+' :: cs => (false, cs)
  | cs => (false, cs)

/-- Splits digits off the front. -/
def splitDigits (cs : List Char) : List Char × List Char :=
  (cs.takeWhile Char.isDigit, cs.dropWhile Char.isDigit)

/-- The digits after a point, if there is one. -/
def splitFraction : List Char → List Char × List Char
  | '.' :: cs => splitDigits cs
  | cs => ([], cs)

/-- The exponent after `e` or `E`; nothing stands for the exponent zero. -/
def exponent? : List Char → Option Int
  | [] => some 0
  | c :: cs => if c = 'e' ∨ c = 'E' then integer? cs else none

/-- The parts of a text that is a decimal numeral, which has a digit on one side of the point. -/
def parts? (cs : List Char) : Option Parts :=
  let (negative, cs) := splitSign cs
  let (whole, cs) := splitDigits cs
  let (fraction, cs) := splitFraction cs
  if whole = [] ∧ fraction = [] then none
  else (exponent? cs).map fun e => ⟨negative, whole, fraction, e⟩

/-- The number nearest to the decimal that the parts spell. -/
def Parts.toBinary64 (p : Parts) : Binary64 :=
  .ofDecimal p.negative (value (p.whole ++ p.fraction)) (p.exponent - p.fraction.length)

/-- The numbers that are spelled as a word. -/
def word? (cs : List Char) : Option Binary64 :=
  let (negative, cs) := splitSign cs
  let word := cs.map Char.toLower
  if word = "inf".toList ∨ word = "infinity".toList then some (.infinity negative)
  else if word = "nan".toList then some .nan
  else none

/-- Reads a floating point numeral. -/
def float? (cs : List Char) : Option Binary64 :=
  word? cs <|> (parts? cs).map Parts.toBinary64

end RecordSql.Numeral
