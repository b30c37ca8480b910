import RecordSql.Document.Basic
import RecordSql.Value.Basic

/-!
# Values in documents

A value is a table with one entry, whose key names the kind of the value; null is the bare name of
its kind. Reading refuses numbers out of range and never converts one kind into another, except that
an integer may stand where a floating point number is wanted.
-/

namespace RecordSql.Value

/-- The word that a document of an integer is. -/
def wordOf? (d : Document) : Option Int64 :=
  (d.intBetween? Int64.minValue.toInt Int64.maxValue.toInt).map Int64.ofInt

/-- The floating point number that a document of a number is. -/
def floatOf? : Document → Option Binary64
  | .float x => some x
  | .int n => some (.ofInt n)
  | _ => none

/-- The date and time that a document of a text spells. -/
def dateTimeOf? (d : Document) : Option DateTime := do
  let s ← d.text?
  (Calendar.Pattern.document.read s.toList).toOption

/-- The value of the named kind, given what stands after the name. -/
def ofCase? (how : Document.Conventions) (kind : String) (payload : Option Document) :
    Option Value :=
  if kind = "Null" then if Document.carriesNothing how payload then some .null else none
  else do
    let d ← payload
    match kind with
    | "Bool" => d.bool?.map .bool
    | "Int" => (wordOf? d).map .int
    | "UInt" => (d.intBetween? 0 (UInt64.size - 1)).map fun n => .uint (UInt64.ofNat n.toNat)
    | "Float" => (floatOf? d).map .float
    | "Text" => d.text?.map .text
    | "DateTime" => (dateTimeOf? d).map .dateTime
    | "Enum" => (wordOf? d).map .enumeration
    | "Other" => d.text?.map .other
    | _ => none

/-- The value that a document spells. -/
def ofDocument? (how : Document.Conventions) (d : Document) : Option Value := do
  let (kind, payload) ← d.case?
  ofCase? how kind payload

/-- The document that spells a value. -/
def toDocument : Value → Document
  | .null => .text "Null"
  | .bool b => .table [("Bool", .bool b)]
  | .int n => .table [("Int", .int n.toInt)]
  | .uint n => .table [("UInt", .int n.toNat)]
  | .float x => .table [("Float", .float x)]
  | .text s => .table [("Text", .text s)]
  | .dateTime t => .table [("DateTime", .text (String.ofList (Calendar.Pattern.document.write t)))]
  | .enumeration n => .table [("Enum", .int n.toInt)]
  | .other s => .table [("Other", .text s)]

end RecordSql.Value
