import RecordSql.Calendar.Pattern
import RecordSql.Number.Layout
import RecordSql.Number.Word

/-!
# Values

The values that filters, bindings and result rows carry, their plain text, and their text inside a
statement.
-/

namespace RecordSql

/-- A value of a filter, a binding or a cell of a row. -/
inductive Value
  | null
  | bool (b : Bool)
  | int (n : Int64)
  | uint (n : UInt64)
  | float (x : Binary64)
  | text (s : String)
  | dateTime (t : DateTime)
  /-- A member of an enumeration, as the number that stands for it. -/
  | enumeration (n : Int64)
  /-- Any other scalar, as its text. -/
  | other (s : String)
  deriving DecidableEq

namespace Value

/-- Whether the value is null. An empty text is not. Model of `Value::is_null`. -/
def isNull : Value → Bool
  | .null => true
  | _ => false

/-- The short name of the kind of a value. Model of `Value::type_label`. -/
def label : Value → String
  | .null => "null"
  | .bool _ => "bool"
  | .int _ => "int"
  | .uint _ => "uint"
  | .float _ => "float"
  | .text _ => "text"
  | .dateTime _ => "datetime"
  | .enumeration _ => "enum"
  | .other _ => "other"

/-- The text of an integer. -/
def integerText (i : Int) : String :=
  String.ofList (Numeral.signed i)

/-- The plain text of a value, without quotes. Model of the `Display` of `Value`. -/
def display : Value → String
  | .null => "null"
  | .bool b => if b then "true" else "false"
  | .int n | .enumeration n => integerText n.toInt
  | .uint n => integerText n.toNat
  | .float x => x.display
  | .text s | .other s => s
  | .dateTime t => String.ofList (Calendar.Pattern.spaced.write t)

/-! ## Literals

The text of a value inside a statement. Text stands between single quotes with nothing escaped, and
values of unknown kind stand bare, so only trusted values may be written in this way. -/

/-- The token for null. Model of `NULL_LITERAL`. -/
def nullToken : String := "null"

/-- The text of a value inside a statement. A null and an empty text are the null token, and a date
    and time is its date. Model of `to_literal`. -/
def literal : Value → String
  | .null => nullToken
  | .bool b => if b then "1" else "0"
  | .dateTime t => "'" ++ String.ofList (Calendar.Pattern.date.write t) ++ "'"
  | .text s => if s.isEmpty then nullToken else "'" ++ s ++ "'"
  | v => v.display

/-- Whether the value is tested with `is` instead of `=`. Model of `is_null_literal`. -/
def isNullLiteral : Value → Bool
  | .null => true
  | .text s => s.isEmpty
  | _ => false

end Value

end RecordSql
