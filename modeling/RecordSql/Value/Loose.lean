import RecordSql.Number.Reader
import RecordSql.Text.Basic
import RecordSql.Value.Basic

/-!
# Values of loose text

A user types values without saying of which kind they are. The first kind that the text can be read
as is taken, and text that can be read as no other kind is a text.
-/

namespace RecordSql.Value

/-- Reads a whole number that fits into a signed word. -/
def word? (cs : List Char) : Option Int64 := do
  let i ← Numeral.integer? cs
  (toInt64 i).toOption

/-- Reads the two words for truth values. -/
def truth? (cs : List Char) : Option Bool :=
  if cs = "true".toList then some true
  else if cs = "false".toList then some false
  else none

/-- Reads a date with a time joined to it, or a date, which stands for its start. -/
def dateTime? (cs : List Char) : Option DateTime :=
  (Calendar.Pattern.joined.read cs).toOption <|> (Calendar.Pattern.date.read cs).toOption

/-- The value that a typed text stands for. Model of `Value::parse_loose`. -/
def ofLooseText (s : String) : Value :=
  let cs := s.toList
  if Text.equalFold s "null" then .null
  else if let some n := word? cs then .int n
  else if let some x := Numeral.float? cs then .float x
  else if let some b := truth? cs then .bool b
  else if let some t := dateTime? cs then .dateTime t
  else .text s

end RecordSql.Value
