import RecordSql.Calendar.DateTime
import RecordSql.Number.Numeral
import RecordSql.Text.Basic

/-!
# Patterns of dates and times

A pattern is a list of pieces. The same pattern writes a date and time and reads it back. Reading is
more lenient than writing: blanks may stand before a number, leading zeros may be missing, and a
year may have a sign. Reading stops at the first piece that fails, and what failed is part of the
answer.
-/

namespace RecordSql.Calendar

/-! ## Pieces -/

/-- The parts of a date and time that a pattern can name. -/
inductive DatePart
  | year
  | month
  | day
  | hour
  | minute
  | second
  deriving DecidableEq

/-- One piece of a pattern. -/
inductive Piece
  /-- A number of fixed width. -/
  | part (f : DatePart)
  /-- The fraction of a second, written only if it is not zero. -/
  | fraction
  /-- This very character. -/
  | mark (c : Char)
  /-- Written as one space and read as any number of blanks. -/
  | space
  /-- Not written, and read as any number of blanks. -/
  | blanks
  deriving DecidableEq

/-- A way to write dates and times. -/
abbrev Pattern := List Piece

namespace Pattern

/-- A date: `2024-03-09`. -/
def date : Pattern :=
  [.part .year, .mark '-', .part .month, .mark '-', .part .day]

/-- A time of day: `17:45:12`. -/
def time : Pattern :=
  [.part .hour, .mark ':', .part .minute, .mark ':', .part .second]

/-- A date and a time apart: `2024-03-09 17:45:12`. -/
def spaced : Pattern := date ++ .space :: time

/-- A date and a time joined by a letter: `2024-03-09T17:45:12`. -/
def joined : Pattern := date ++ .mark 'T' :: time

/-- The joined form with a fraction, between whose pieces blanks are read: `2024-03-09T17:45:12.5`.
    -/
def document : Pattern :=
  [.part .year, .blanks, .mark '-', .part .month, .blanks, .mark '-', .part .day, .blanks,
    .mark 'T', .part .hour, .blanks, .mark ':', .part .minute, .blanks, .mark ':',
    .part .second, .fraction, .blanks]

end Pattern

/-! ## Writing -/

/-- A year has four digits. One outside `0`-`9999` has a sign and at least four digits. -/
def writeYear (y : Int) : List Char :=
  if 0 ≤ y ∧ y ≤ 9999 then Numeral.padded 4 y.natAbs
  else (if y < 0 then '-' else '+') :: Numeral.padded 4 y.natAbs

/-- The text of one part. -/
def DatePart.write (t : DateTime) : DatePart → List Char
  | .year => writeYear t.date.year
  | .month => Numeral.padded 2 t.date.month
  | .day => Numeral.padded 2 t.date.day
  | .hour => Numeral.padded 2 t.time.hour
  | .minute => Numeral.padded 2 t.time.minute
  | .second => Numeral.padded 2 t.time.shownSecond

/-- A fraction has three, six or nine digits, the fewest that lose nothing. -/
def writeFraction (nano : Nat) : List Char :=
  if nano = 0 then []
  else if nano % 1000000 = 0 then '.' :: Numeral.padded 3 (nano / 1000000)
  else if nano % 1000 = 0 then '.' :: Numeral.padded 6 (nano / 1000)
  else '.' :: Numeral.padded 9 nano

/-- The text of one piece. -/
def Piece.write (t : DateTime) : Piece → List Char
  | .part f => f.write t
  | .fraction => writeFraction t.time.shownNano
  | .mark c => [c]
  | .space => [' ']
  | .blanks => []

/-- The text of a date and time. -/
def Pattern.write (p : Pattern) (t : DateTime) : List Char :=
  p.flatMap (Piece.write t)

/-! ## Reading -/

/-- Why a text is not a date and time of a pattern. -/
inductive ReadError
  /-- The text ended before the pattern. -/
  | tooShort
  /-- A character is not the one that the pattern asks for. -/
  | invalid
  /-- A number is not one that the calendar has. -/
  | outOfRange
  /-- The pattern ended before the text. -/
  | tooLong
  deriving DecidableEq, Repr

/-- The message shown for a text that is not a date and time. -/
def ReadError.message : ReadError → String
  | .tooShort => "premature end of input"
  | .invalid => "input contains invalid characters"
  | .outOfRange => "input is out of range"
  | .tooLong => "trailing input"

/-- The numbers read so far. What a pattern does not name stands at the start of its range. -/
structure Parts where
  year : Int := 0
  month : Nat := 1
  day : Nat := 1
  hour : Nat := 0
  minute : Nat := 0
  second : Nat := 0
  nano : Nat := 0
  deriving DecidableEq

/-- Reads digits, at most `limit` of them, that spell a number below `2 ^ 63`. -/
def readDigits (limit : Option Nat) (cs : List Char) : Except ReadError (Nat × List Char) :=
  let ds := (cs.take (limit.getD cs.length)).takeWhile Char.isDigit
  if cs = [] then .error .tooShort
  else if ds = [] then .error .invalid
  else if Nat.pow 2 63 ≤ Numeral.value ds then .error .outOfRange
  else .ok (Numeral.value ds, cs.drop ds.length)

/-- Reads a year. Without a sign it has at most four digits; with one, any number of them. -/
def readYear : List Char → Except ReadError (Int × List Char)
  | '-' :: cs => (readDigits none cs).map fun r => (-Int.ofNat r.1, r.2)
  | '+' :: cs => (readDigits none cs).map fun r => (Int.ofNat r.1, r.2)
  | cs => (readDigits (some 4) cs).map fun r => (Int.ofNat r.1, r.2)

/-- Keeps a number that lies between `lo` and `hi`. -/
def within (lo hi n : Nat) : Except ReadError Nat :=
  if lo ≤ n ∧ n ≤ hi then .ok n else .error .outOfRange

/-- Reads a number of at most two digits that lies between `lo` and `hi`. -/
def readWithin (lo hi : Nat) (cs : List Char) : Except ReadError (Nat × List Char) := do
  let (n, rest) ← readDigits (some 2) cs
  return (← within lo hi n, rest)

/-- Reads one part. A year must fit into 32 bits even where the calendar is shorter. -/
def DatePart.read (f : DatePart) (cs : List Char) (p : Parts) :
    Except ReadError (Parts × List Char) :=
  let cs := Text.skipBlanks cs
  match f with
  | .year => do
    let (y, rest) ← readYear cs
    if Int32.minValue.toInt ≤ y ∧ y ≤ Int32.maxValue.toInt then
      return ({ p with year := y }, rest)
    else throw .outOfRange
  | .month => do
    let (n, rest) ← readWithin 1 12 cs
    return ({ p with month := n }, rest)
  | .day => do
    let (n, rest) ← readWithin 1 31 cs
    return ({ p with day := n }, rest)
  | .hour => do
    let (n, rest) ← readWithin 0 23 cs
    return ({ p with hour := n }, rest)
  | .minute => do
    let (n, rest) ← readWithin 0 59 cs
    return ({ p with minute := n }, rest)
  | .second => do
    let (n, rest) ← readWithin 0 60 cs
    return ({ p with second := n }, rest)

/-- Reads a fraction after a point, if there is one. Digits after the ninth are dropped. -/
def readFraction (p : Parts) : List Char → Except ReadError (Parts × List Char)
  | '.' :: cs => do
    let (n, rest) ← readDigits (some 9) cs
    let places := cs.length - rest.length
    return ({ p with nano := n * Nat.pow 10 (9 - places) }, rest.dropWhile Char.isDigit)
  | cs => return (p, cs)

/-- Reads one piece. -/
def Piece.read (piece : Piece) (cs : List Char) (p : Parts) :
    Except ReadError (Parts × List Char) :=
  match piece with
  | .part f => f.read cs p
  | .fraction => readFraction p cs
  | .mark c =>
    match cs with
    | [] => .error .tooShort
    | d :: rest => if d = c then .ok (p, rest) else .error .invalid
  | .space | .blanks => .ok (p, Text.skipBlanks cs)

/-- Reads all pieces in order. -/
def Pattern.readParts : Pattern → List Char → Parts → Except ReadError (Parts × List Char)
  | [], cs, p => .ok (p, cs)
  | piece :: rest, cs, p => do
    let (p, cs) ← piece.read cs p
    Pattern.readParts rest cs p

/-- The date and time that the numbers name. The sixtieth second is a leap second. -/
def Parts.toDateTime? (p : Parts) : Option DateTime := do
  let date ← Date.of? p.year p.month p.day
  let time ← if p.second = 60 then Time.of? p.hour p.minute 59 (nanosPerSecond + p.nano)
    else Time.of? p.hour p.minute p.second p.nano
  return ⟨date, time⟩

/-- Reads a text that is a date and time of the pattern from its start to its end. -/
def Pattern.read (p : Pattern) (cs : List Char) : Except ReadError DateTime :=
  match p.readParts cs {} with
  | .error e => .error e
  | .ok (_, _ :: _) => .error .tooLong
  | .ok (parts, []) =>
    match parts.toDateTime? with
    | none => .error .outOfRange
    | some t => .ok t

end RecordSql.Calendar
