import RecordSql.Document.Basic
import RecordSql.Number.Numeral

/-!
# Numbers of JSON texts

A whole numeral that fits into a word of 64 bits is an integer. Any other numeral is a floating
point number, computed from as many of its digits as fit into an unsigned word and from one power of
ten, so it need not be the nearest number to what is written.
-/

namespace RecordSql.Json

/-- A numeral as it is written. -/
structure Numeral where
  negative : Bool
  whole : List Char
  fraction : Option (List Char)
  /-- The exponent's sign and digits. -/
  exponent : Option (Bool × List Char)

/-- The greatest unsigned word. -/
def wordMax : Nat := UInt64.size - 1

/-- Appends digits to a number as long as it stays a word, and returns the digits that are left. -/
def appendDigits (n : Nat) : List Char → Nat × List Char
  | [] => (n, [])
  | d :: ds =>
    let m := 10 * n + RecordSql.Numeral.digitValue d
    if wordMax < m then (n, d :: ds) else appendDigits m ds

/-- The positive floating point number near `n * 10 ^ e`; a power beyond the greatest one is divided
    out first. Nothing is returned beyond the greatest number. -/
def scaleByTen? (n : Nat) (e : Int) : Option Binary64 :=
  let x := Binary64.ofInt n
  let power (k : Nat) := Binary64.ofInt (Nat.pow 10 k)
  if n = 0 then some x
  else if 308 < e then none
  else if 0 ≤ e then
    let y := x.multiply (power e.toNat)
    if y.isInfinite then none else some y
  else if -308 ≤ e then some (x.divide (power (-e).toNat))
  else if -616 ≤ e then some ((x.divide (power 308)).divide (power (-e - 308).toNat))
  else some (.ofInt 0)

namespace Numeral

/-- The digits that count, and the power of ten that they are multiplied with before the exponent is
    applied. -/
def significand (x : Numeral) : Nat × Int :=
  let (n, left) := appendDigits 0 x.whole
  match x.fraction with
  | none => (n, left.length)
  | some fraction =>
    let (m, dropped) := appendDigits n fraction
    (m, (left.length : Int) - (fraction.length - dropped.length : Nat))

/-- The magnitude of a numeral that is no integer. -/
def magnitude? (x : Numeral) : Option Binary64 :=
  let (n, e) := x.significand
  match x.exponent with
  | none => scaleByTen? n e
  | some (negative, digits) =>
    let k := RecordSql.Numeral.value digits
    if Nat.pow 2 31 ≤ k then if n ≠ 0 ∧ !negative then none else some (.ofInt 0)
    else scaleByTen? n (if negative then e - k else e + k)

/-- The integer that a numeral is, if it has no fraction and no exponent and fits into a word. A
    negative zero is no integer. -/
def integer? (x : Numeral) : Option Int :=
  let n := RecordSql.Numeral.value x.whole
  if x.fraction.isSome ∨ x.exponent.isSome then none
  else if x.negative then if 0 < n ∧ n ≤ Nat.pow 2 63 then some (-n) else none
  else if n ≤ wordMax then some n
  else none

/-- The document that a numeral is. -/
def toDocument (x : Numeral) : Document :=
  match x.integer? with
  | some n => .int n
  | none =>
    match x.magnitude? with
    | none => .unreadable
    | some y => .float (if x.negative then y.negate else y)

end Numeral

/-- The numeral at the start of a text, and the rest. A leading zero stands alone, and a point or an
    exponent mark has a digit after it. -/
def readNumeral (cs : List Char) : Option (Numeral × List Char) := do
  let (negative, cs) := match cs with
    | '-' :: rest => (true, rest)
    | _ => (false, cs)
  let whole := match cs with
    | '0' :: _ => ['0']
    | _ => cs.takeWhile Char.isDigit
  if whole = [] then none
  let cs := cs.drop whole.length
  if whole = ['0'] ∧ (cs.head?.map Char.isDigit).getD false then none
  let (fraction, cs) := match cs with
    | '.' :: rest => (some (rest.takeWhile Char.isDigit), rest.dropWhile Char.isDigit)
    | _ => (none, cs)
  if fraction = some [] then none
  let (exponent, cs) := match cs with
    | c :: rest =>
      if c = 'e' ∨ c = 'E' then
        let (sign, rest) := match rest with
          | '-' :: more => (true, more)
          | '+' :: more => (false, more)
          | _ => (false, rest)
        (some (sign, rest.takeWhile Char.isDigit), rest.dropWhile Char.isDigit)
      else (none, cs)
    | [] => (none, cs)
  if (exponent.map Prod.snd) = some [] then none
  return (⟨negative, whole, fraction, exponent⟩, cs)

end RecordSql.Json
