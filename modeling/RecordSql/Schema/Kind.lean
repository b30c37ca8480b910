/-!
# Kinds of members

A member of a record has a kind. Scalars can be stored in a column; everything else is left out of
statements. A generic member has the kind of one of the record's type arguments.
-/

namespace RecordSql

/-- The kinds of values that a column can store. -/
inductive FieldKind
  | string
  | boolean
  | numeric
  | dateTime
  | nullableDateTime
  | enumeration
  | otherScalar
  deriving DecidableEq, Repr

/-- The declared kind of a member, stored or not. -/
inductive MemberKind
  | scalar (kind : FieldKind)
  /-- A record of its own. -/
  | object
  | interface
  | array
  /-- Anything that yields a sequence of items. -/
  | sequence
  /-- The type argument at a position. -/
  | generic (index : Nat)
  deriving DecidableEq, Repr

namespace FieldKind

/-- The kinds in the order in which they are listed. -/
def all : List FieldKind :=
  [.string, .boolean, .numeric, .dateTime, .nullableDateTime, .enumeration, .otherScalar]

/-- The name of a kind in a document. -/
def name : FieldKind → String
  | .string => "string"
  | .boolean => "boolean"
  | .numeric => "numeric"
  | .dateTime => "datetime"
  | .nullableDateTime => "nullable_datetime"
  | .enumeration => "enum"
  | .otherScalar => "other_scalar"

/-- The name of a kind as it is listed to a reader. -/
def title : FieldKind → String
  | .string => "String"
  | .boolean => "Boolean"
  | .numeric => "Numeric"
  | .dateTime => "DateTime"
  | .nullableDateTime => "NullableDateTime"
  | .enumeration => "Enum"
  | .otherScalar => "OtherScalar"

/-- The kind of the same type with a null added. Only a date and time has a kind of its own for it.
    -/
def nullable : FieldKind → FieldKind
  | .dateTime => .nullableDateTime
  | kind => kind

end FieldKind

namespace MemberKind

/-- The kinds that have no position. -/
def plain : List MemberKind :=
  FieldKind.all.map .scalar ++ [.object, .interface, .array, .sequence]

/-- The name of a kind in a document, where the position of a generic kind is given beside it. -/
def name : MemberKind → String
  | .scalar kind => kind.name
  | .object => "class"
  | .interface => "interface"
  | .array => "array"
  | .sequence => "sequence"
  | .generic _ => "generic"

/-- The name of a kind as it is listed to a reader. -/
def title : MemberKind → String
  | .scalar kind => kind.title
  | .object => "Class"
  | .interface => "Interface"
  | .array => "Array"
  | .sequence => "Sequence"
  | .generic index => "Generic(" ++ toString index ++ ")"

/-- The kind of the column that stores a member, if its kind is a scalar one. Model of
    `MemberKind::field_kind`. -/
def fieldKind? : MemberKind → Option FieldKind
  | .scalar kind => some kind
  | _ => none

/-- The kind of the same type with a null added. -/
def nullable : MemberKind → MemberKind
  | .scalar kind => .scalar kind.nullable
  | kind => kind

end MemberKind

end RecordSql
