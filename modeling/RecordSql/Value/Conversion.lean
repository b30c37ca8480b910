import RecordSql.Value.Basic

/-!
# Conversion into and out of values

The values of ordinary types become dynamic ones without a change of any number. A cell of a row is
wanted as a value of an ordinary type. Integers are checked against the range of the type; no
conversion rounds or wraps an integer, except that a float may be wanted where the cell holds an
integer.
-/

namespace RecordSql

/-! ## Native values

Signed words of every width become the signed word of 64 bits and unsigned ones the unsigned
word. -/

/-- The types whose values can be carried by filters, bindings and rows. Model of the `From`
    conversions into `Value`. -/
class ToValue (α : Type) where
  toValue : α → Value

export ToValue (toValue)

instance : ToValue Value := ⟨id⟩
instance : ToValue Bool := ⟨.bool⟩
instance : ToValue Int8 := ⟨fun n => .int (Int64.ofInt n.toInt)⟩
instance : ToValue Int16 := ⟨fun n => .int (Int64.ofInt n.toInt)⟩
instance : ToValue Int32 := ⟨fun n => .int (Int64.ofInt n.toInt)⟩
instance : ToValue Int64 := ⟨.int⟩
instance : ToValue UInt8 := ⟨fun n => .uint (UInt64.ofNat n.toNat)⟩
instance : ToValue UInt16 := ⟨fun n => .uint (UInt64.ofNat n.toNat)⟩
instance : ToValue UInt32 := ⟨fun n => .uint (UInt64.ofNat n.toNat)⟩
instance : ToValue UInt64 := ⟨.uint⟩
instance : ToValue Binary64 := ⟨.float⟩
instance : ToValue String := ⟨.text⟩
instance : ToValue Char := ⟨fun c => .other (String.ofList [c])⟩
instance : ToValue DateTime := ⟨.dateTime⟩
instance : ToValue Date := ⟨fun d => .dateTime d.start⟩

/-- A missing value is null. -/
instance {α : Type} [ToValue α] : ToValue (Option α) :=
  ⟨fun x => (x.map toValue).getD .null⟩

/-! ## Wanted types -/

/-- The types that a value can be converted to. -/
inductive Target
  | bool
  | int64
  | int32
  | uint64
  | float
  | text
  | dateTime
  deriving DecidableEq, Repr

namespace Target

/-- The values of a type. -/
abbrev Carrier : Target → Type
  | .bool => Bool
  | .int64 => Int64
  | .int32 => Int32
  | .uint64 => UInt64
  | .float => Binary64
  | .text => String
  | .dateTime => DateTime

/-- What a conversion that does not apply says it expected. -/
def expectation : Target → String
  | .bool => "bool"
  | .int64 | .int32 => "integer"
  | .uint64 => "unsigned integer"
  | .float => "float"
  | .text => "text"
  | .dateTime => "datetime"

/-- A value of a type as a dynamic value. -/
def toValue : (t : Target) → t.Carrier → Value
  | .bool => RecordSql.toValue
  | .int64 => RecordSql.toValue
  | .int32 => RecordSql.toValue
  | .uint64 => RecordSql.toValue
  | .float => RecordSql.toValue
  | .text => RecordSql.toValue
  | .dateTime => RecordSql.toValue

end Target

/-! ## Failures -/

/-- Why a value cannot be converted. -/
inductive ConversionError
  /-- The value is of a kind that the type does not take. -/
  | mismatch (expected found : String)
  /-- The integer is outside the range of the type. -/
  | range (e : RangeError)
  /-- The text is not a date and time. -/
  | dateTime (e : Calendar.ReadError)
  deriving DecidableEq, Repr

/-- The message shown for a value that cannot be converted. -/
def ConversionError.message : ConversionError → String
  | .mismatch expected found => "expected " ++ expected ++ ", found " ++ found
  | .range e => e.message
  | .dateTime e => e.message

namespace Value

/-! ## Conversions -/

/-- The failure of a conversion to a type that does not take this kind of value. Model of
    `mismatch`. -/
def mismatch {α : Type} (t : Target) (v : Value) : Except ConversionError α :=
  .error (.mismatch t.expectation v.label)

/-- The signed word that a value holds. -/
def toSigned (v : Value) : Except ConversionError Int64 :=
  match v with
  | .int n | .enumeration n => .ok n
  | .uint n => (toInt64 n.toNat).mapError .range
  | .bool b => .ok (if b then 1 else 0)
  | v => v.mismatch .int64

/-- The date and time that a text spells, apart or joined; a failure is that of the joined form. -/
def readDateTime (s : String) : Except Calendar.ReadError DateTime :=
  match Calendar.Pattern.spaced.read s.toList with
  | .ok t => .ok t
  | .error _ => Calendar.Pattern.joined.read s.toList

/-- The value as a value of the type. Model of `from_value` of each type. -/
def convert : (t : Target) → Value → Except ConversionError t.Carrier
  | .bool, .bool b => .ok b
  | .bool, .int n => .ok (n != 0)
  | .bool, .uint n => .ok (n != 0)
  | .int64, v => v.toSigned
  | .int32, v => v.toSigned.bind fun n => (toInt32 n.toInt).mapError .range
  | .uint64, .uint n => .ok n
  | .uint64, .int n => (toUInt64 n.toInt).mapError .range
  | .uint64, .enumeration n => (toUInt64 n.toInt).mapError .range
  | .float, .float x => .ok x
  | .float, .int n => .ok (.ofInt n.toInt)
  | .text, .text s => .ok s
  | .text, .other s => .ok s
  | .dateTime, .dateTime t => .ok t
  | .dateTime, .text s => (readDateTime s).mapError .dateTime
  | t, v => v.mismatch t

/-- The value as a value of the type, or nothing if it is null. Model of `from_value` of `Option`.
    -/
def convertNullable (t : Target) (v : Value) : Except ConversionError (Option t.Carrier) :=
  if v.isNull then .ok none else (v.convert t).map some

end Value

end RecordSql
