import RecordSql.Dialect.Basic
import RecordSql.Statement.Basic
import RecordSql.Statement.NamedValues

/-!
# Compilers

A compiler writes statements in one dialect with one style of quoting. This module holds the names
that it writes, identifiers and placeholders, and the conditions that it makes of them.
-/

namespace RecordSql

/-- The choices that the text of statements depends on. Model of `SqlCompiler`. -/
structure Compiler where
  dialect : Dialect := .default
  quoting : Quoting := .bare
  deriving DecidableEq, Repr

namespace Compiler

/-- An identifier as it stands in a statement. -/
def quote (c : Compiler) (identifier : String) : String :=
  c.quoting.quote identifier

/-- The placeholder for the value that a field is given. Model of `DialectProfile::param_name`. -/
def placeholder (c : Compiler) (field : String) : String :=
  String.ofList (c.dialect.marker :: field.toList)

/-- The placeholder for the value that a field is compared with. Model of
    `DialectProfile::where_param_name`. -/
def filterPlaceholder (c : Compiler) (field : String) : String :=
  String.ofList (c.dialect.marker :: 'p' :: field.toList)

/-- Items with commas between them. -/
def commaSeparated (items : List String) : String :=
  ", ".intercalate items

/-- Identifiers with commas between them. Model of `column_list`. -/
def identifierList (c : Compiler) (identifiers : List String) : String :=
  commaSeparated (identifiers.map c.quote)

/-- The text behind an insert that reads the new row back, where the dialect can do so. Columns,
    table and identity are given as they stand in a statement. Model of
    `DialectProfile::identity_suffix`. -/
def identitySuffix? (c : Compiler) (columns table identity : String) : Option String :=
  c.dialect.readBack?.map fun f =>
    ";SELECT " ++ columns ++ " FROM " ++ table ++ " WHERE " ++ identity ++ " = " ++ f.call ++ ";"

/-- Whether an insert with this identity reads the new row back. -/
def readsBack (c : Compiler) (identity : Option String) : Bool :=
  identity.isSome && c.dialect.readBack?.isSome

/-! ## Conditions

The end of a statement that says which rows it is about. A condition compares a field with a
literal, or with a placeholder that the value is bound to. Conditions are in the order of their
values, and no values make no clause. -/

/-- The clause of some conditions. -/
def whereClause (conditions : List String) : String :=
  if conditions.isEmpty then "" else " WHERE " ++ " AND ".intercalate conditions

/-- The comparison of a field with a literal. -/
def literalCondition (c : Compiler) (field : String) (value : Value) : String :=
  if value.isNullLiteral then c.quote field ++ " is " ++ value.literal
  else c.quote field ++ "=" ++ value.literal

/-- The clause that compares fields with literals. Model of `build_where_inline`. -/
def whereLiterals (c : Compiler) (filters : Filters) : String :=
  whereClause (filters.entries.map fun e => c.literalCondition e.1 e.2)

/-- The comparison of a field with a placeholder. -/
def placeholderCondition (c : Compiler) (field : String) : String :=
  c.quote field ++ "=" ++ c.filterPlaceholder field

/-- The clause that compares fields with placeholders, and the values for them. Model of
    `build_where_params`. -/
def wherePlaceholders (c : Compiler) (parameters : Parameters) : Statement where
  sql := whereClause (parameters.names.map c.placeholderCondition)
  bindings := parameters.entries.map fun e => ⟨c.filterPlaceholder e.1, e.2⟩

end Compiler

end RecordSql
