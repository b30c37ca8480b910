import RecordSql.Calendar.DateTime
import RecordSql.Document.Basic
import RecordSql.Document.Toml.Text
import RecordSql.Number.Reader
import RecordSql.Number.Word

/-!
# Scalars in TOML

Dates and times, numbers, truth values and texts. A date and time is checked against the calendar
but not kept, since nothing that is read from a document holds one.
-/

namespace RecordSql.Toml

/-! ## Dates and times -/

/-- Reads a number of exactly `count` digits. -/
def readFixed (count : Nat) (cs : List Char) : Option (Nat × List Char) := do
  let n ← Numeral.natural? (cs.take count)
  if (cs.take count).length = count then return (n, cs.drop count) else none

/-- Takes this very character off the front. -/
def expect (c : Char) : List Char → Option (List Char)
  | d :: rest => if d = c then some rest else none
  | [] => none

/-- Takes one of the characters that `p` accepts off the front. -/
def expectOne (p : Char → Bool) : List Char → Option (List Char)
  | d :: rest => if p d then some rest else none
  | [] => none

/-- Skips a date of the calendar: `1979-05-27`. -/
def skipDate (cs : List Char) : Option (List Char) := do
  let (year, cs) ← readFixed 4 cs
  let (month, cs) ← readFixed 2 (← expect '-' cs)
  let (day, cs) ← readFixed 2 (← expect '-' cs)
  let _ ← Date.of? year month day
  return cs

/-- Skips a fraction after a point; without a point there is none. -/
def skipFraction : List Char → Option (List Char)
  | '.' :: cs =>
    if (cs.head?.map Char.isDigit).getD false then some (cs.dropWhile Char.isDigit) else none
  | cs => some cs

/-- Skips hours and minutes. -/
def skipMinutes (cs : List Char) : Option (List Char) := do
  let (hour, cs) ← readFixed 2 cs
  let (minute, cs) ← readFixed 2 (← expect ':' cs)
  if hour < 24 ∧ minute < 60 then return cs else none

/-- Skips a time of day, in which a minute may have a sixtieth second. -/
def skipTime (cs : List Char) : Option (List Char) := do
  let cs ← skipMinutes cs
  let (second, cs) ← readFixed 2 (← expect ':' cs)
  if second ≤ 60 then skipFraction cs else none

/-- Skips a distance from universal time. -/
def skipOffset (cs : List Char) : Option (List Char) :=
  expectOne (fun c => c == 'Z' || c == 'z') cs <|> do
    skipMinutes (← expectOne (fun c => c == '+' || c == '-') cs)

/-- Skips the time that may follow a date. -/
def skipTimeOfDate (cs : List Char) : Option (List Char) := do
  let cs ← skipTime (← expectOne (fun c => c == 'T' || c == 't' || c == ' ') cs)
  return (skipOffset cs).getD cs

/-- Skips a date with or without a time, or a time. -/
def skipCalendar (cs : List Char) : Option (List Char) :=
  (do
    let cs ← skipDate cs
    return (skipTimeOfDate cs).getD cs) <|> skipTime cs

/-! ## Numbers -/

/-- Splits digits off the front, between which single underscores may stand. -/
def splitDigits (isDigit : Char → Bool) : List Char → List Char × List Char
  | '_' :: d :: rest =>
    if isDigit d then consChar d (splitDigits isDigit rest) else ([], '_' :: d :: rest)
  | c :: rest => if isDigit c then consChar c (splitDigits isDigit rest) else ([], c :: rest)
  | [] => ([], [])

/-- Reads digits, of which the first has no underscore before it. -/
def readDigits (isDigit : Char → Bool) (cs : List Char) : Option (List Char × List Char) :=
  if (cs.head?.map isDigit).getD false then some (splitDigits isDigit cs) else none

/-- Takes an optional sign off the front. -/
def splitSign : List Char → List Char × List Char
  | '+' :: cs => (['+'], cs)
  | '-' :: cs => (['-'], cs)
  | cs => ([], cs)

/-- Reads the whole digits of a number. A leading zero stands alone. -/
def readWhole : List Char → Option (List Char × List Char)
  | '0' :: cs => some (['0'], cs)
  | cs => readDigits Char.isDigit cs

/-- Reads an optional fraction, with its point. -/
def readFraction : List Char → Option (List Char × List Char)
  | '.' :: cs => (readDigits Char.isDigit cs).map (consChar '.')
  | cs => some ([], cs)

/-- Reads an optional exponent, with its mark. -/
def readExponent : List Char → Option (List Char × List Char)
  | [] => some ([], [])
  | c :: cs =>
    if c = 'e' ∨ c = 'E' then do
      let (sign, cs) := splitSign cs
      let (digits, cs) ← readDigits Char.isDigit cs
      return ('e' :: (sign ++ digits), cs)
    else some ([], c :: cs)

/-- The integer of a numeral, which must be a signed word. -/
def integerDocument (i : Int) : Option Document :=
  (toInt64 i).toOption.map fun _ => .int i

/-- The number of a numeral. Beyond the greatest number only the negative side is accepted. -/
def floatDocument (x : Binary64) : Option Document :=
  if x = .infinity false then none else some (.float x)

/-- Reads a decimal number. -/
def readDecimal (cs : List Char) : Option (Document × List Char) := do
  let (sign, cs) := splitSign cs
  let (whole, cs) ← readWhole cs
  let (fraction, cs) ← readFraction cs
  let (exponent, cs) ← readExponent cs
  if fraction = [] ∧ exponent = [] then
    return (← integerDocument (← Numeral.integer? (sign ++ whole)), cs)
  else
    return (← floatDocument (← Numeral.float? (sign ++ whole ++ fraction ++ exponent)), cs)

/-- Reads the digits of a number in another base. -/
def readInBase (base : Nat) (cs : List Char) : Option (Document × List Char) := do
  let (digits, cs) ← readDigits (fun c => (Numeral.valueIn? base c).isSome) cs
  return (← integerDocument (← Numeral.numberIn? base digits), cs)

/-- Reads one of the words for what is no decimal number. -/
def readWordFloat (cs : List Char) : Option (Document × List Char) :=
  let (sign, rest) := splitSign cs
  let word := rest.take 3
  if word = "inf".toList then some (.float (.infinity (sign == ['-'])), rest.drop 3)
  else if word = "nan".toList then some (.float .nan, rest.drop 3)
  else none

/-- Reads a number. -/
def readNumber : List Char → Option (Document × List Char)
  | '0' :: 'x' :: cs => readInBase 16 cs
  | '0' :: 'o' :: cs => readInBase 8 cs
  | '0' :: 'b' :: cs => readInBase 2 cs
  | cs => readWordFloat cs <|> readDecimal cs

/-! ## Scalars -/

/-- Reads a truth value. -/
def readBool (cs : List Char) : Option (Document × List Char) :=
  if cs.take 4 = "true".toList then some (.bool true, cs.drop 4)
  else if cs.take 5 = "false".toList then some (.bool false, cs.drop 5)
  else none

/-- Reads a value that is neither a list nor a table. -/
def readScalar (cs : List Char) : Option (Document × List Char) :=
  ((readText cs).map fun r => (.text (String.ofList r.1), r.2)) <|>
  readBool cs <|>
  ((skipCalendar cs).map fun rest => (.calendar, rest)) <|>
  readNumber cs

end RecordSql.Toml
