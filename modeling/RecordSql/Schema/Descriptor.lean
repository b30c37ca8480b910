import RecordSql.Schema.Basic

/-!
# Descriptors

The part of a schema that is stored: its table and, in the order of their declaration, the fields
for the members whose kind is a scalar one. Other members are left out without a word.
-/

namespace RecordSql

/-- A member that is stored in a column. -/
structure Field where
  name : String
  /-- The position among all declared members. -/
  ordinal : Nat
  kind : FieldKind
  /-- Whether the database assigns the field, for the operation at hand. -/
  identity : Bool
  ignored : Bool
  deriving DecidableEq, Repr

/-- The stored part of a schema. -/
structure Descriptor where
  table : String
  fields : List Field
  deriving DecidableEq, Repr

namespace Schema

/-- The field for the member at a position, if it can be stored. -/
def field? (s : Schema) (ordinal : Nat) (m : Member) : Option Field :=
  (m.kind.resolve s.typeArguments).map fun kind => ⟨m.name, ordinal, kind, false, m.ignored⟩

/-- The stored part of a schema, with no field flagged as the identity. Model of
    `EntityDescriptor::from_schema`. -/
def descriptor (s : Schema) : Descriptor where
  table := s.tableName
  fields := s.members.zipIdx.filterMap fun (m, i) => s.field? i m

end Schema

namespace Descriptor

/-- The names that take part in statements. Model of `EntityDescriptor::columns`. -/
def columns (d : Descriptor) : List String :=
  (d.fields.filter fun f => !f.ignored).map Field.name

/-- The first field of a name, ignored or not. -/
def field? (d : Descriptor) (name : String) : Option Field :=
  d.fields.find? fun f => f.name == name

/-- Flags the fields of a name as the identity, and no others. Model of
    `EntityDescriptor::with_identity`. -/
def withIdentity (d : Descriptor) (name : String) : Descriptor :=
  { d with fields := d.fields.map fun f => { f with identity := f.name == name } }

/-- The first field that is flagged as the identity. Model of `EntityDescriptor::identity`. -/
def identity? (d : Descriptor) : Option Field :=
  d.fields.find? Field.identity

end Descriptor

end RecordSql
