import RecordSql.Schema.Kind

/-!
# Schemas

The declaration of a record: its name, the types bound to its type parameters and its members in the
order of their declaration.
-/

namespace RecordSql

/-- A type that is bound to a type parameter of a record. -/
structure TypeArgument where
  name : String
  kind : MemberKind
  deriving DecidableEq, Repr

/-- A declared member of a record. -/
structure Member where
  name : String
  kind : MemberKind
  /-- Described but left out of every statement. -/
  ignored : Bool := false
  deriving DecidableEq, Repr

/-- The declaration of a record. -/
structure Schema where
  name : String
  typeArguments : List TypeArgument := []
  members : List Member := []
  deriving DecidableEq, Repr

/-- The kind of the column that stores a member, given the type arguments. A generic member has one
    only if a scalar is bound to its position. Model of `MemberKind::resolve`. -/
def MemberKind.resolve (arguments : List TypeArgument) : MemberKind → Option FieldKind
  | .generic index => do
    let argument ← arguments[index]?
    argument.kind.fieldKind?
  | kind => kind.fieldKind?

namespace Schema

/-- The table that holds the records: that of the wrapped type if there is exactly one type
    argument, and one of the record's own name otherwise. Model of `resolve_table_name`. -/
def tableName (s : Schema) : String :=
  match s.typeArguments with
  | [only] => only.name
  | _ => s.name

end Schema

end RecordSql
