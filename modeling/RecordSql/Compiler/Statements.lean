import RecordSql.Compiler.Basic
import RecordSql.Schema.Descriptor

/-!
# Statements about records

The statements that read, insert, update and delete the records of a descriptor. Lists of columns
follow the descriptor; lists that a caller gives keep the caller's order.
-/

namespace RecordSql.Compiler

/-- The values for the placeholders of fields, in order. -/
def fieldBindings (c : Compiler) (entries : List (String × Value)) : List Binding :=
  entries.map fun e => ⟨c.placeholder e.1, e.2⟩

/-! ## Reading -/

/-- Reads every record. Model of `build_select`. -/
def select (c : Compiler) (d : Descriptor) : Statement where
  sql := "SELECT " ++ c.identifierList d.columns ++ " FROM " ++ c.quote d.table

/-- Reads the records whose fields equal literals. Model of `SqlCompiler::select_where_inline`. -/
def selectLiterals (c : Compiler) (d : Descriptor) (filters : Filters) : Statement :=
  c.select d ++ ⟨c.whereLiterals filters, []⟩

/-- Reads the records whose fields equal bound values. Model of `SqlCompiler::select_where`. -/
def selectWhere (c : Compiler) (d : Descriptor) (parameters : Parameters) : Statement :=
  c.select d ++ c.wherePlaceholders parameters

/-! ## Inserting -/

/-- The field that the database assigns: the one that is given, or else the one that is flagged. -/
def effectiveIdentity (d : Descriptor) (identity : Option String) : Option String :=
  identity <|> d.identity?.map Field.name

/-- The columns that an insert lists: not the identity, and none that has an explicit value. -/
def insertColumns (d : Descriptor) (identity : Option String) (explicit : Parameters) :
    List String :=
  d.columns.filter fun column => some column != identity && !explicit.contains column

/-- The text behind an insert that reads the new row back, if there is an identity and the dialect
    can do so. -/
def insertSuffix (c : Compiler) (d : Descriptor) (identity : Option String) : String :=
  (identity.bind fun name =>
    c.identitySuffix? (c.identifierList d.columns) (c.quote d.table) (c.quote name)).getD ""

/-- Inserts a record. Only explicit values are bound; those of the listed columns are left to the
    caller. Model of `SqlCompiler::insert` and `build_insert`. -/
def insert (c : Compiler) (d : Descriptor) (identity : Option String) (explicit : Parameters) :
    Statement :=
  let identity := effectiveIdentity d identity
  let columns := insertColumns d identity explicit
  { sql :=
      "INSERT INTO " ++ c.quote d.table ++ " (" ++ c.identifierList columns ++ ") VALUES (" ++
        commaSeparated (columns.map c.placeholder) ++ ")" ++ c.insertSuffix d identity
    bindings := c.fieldBindings explicit.entries }

/-! ## Changing and deleting -/

/-- Gives a field the value of its placeholder. -/
def assignment (c : Compiler) (field : String) : String :=
  c.quote field ++ "=" ++ c.placeholder field

/-- The fields that an update changes: those with a value, and all columns if there is none. -/
def updateFields (d : Descriptor) (values : Parameters) : List String :=
  if values.isEmpty then d.columns else values.names

/-- Updates the records whose fields equal bound values, and every record if there are none. Only
    given values are bound. Model of `build_update`. -/
def update (c : Compiler) (d : Descriptor) (values filter : Parameters) : Statement :=
  { sql :=
      "UPDATE " ++ c.quote d.table ++ " SET " ++
        commaSeparated ((updateFields d values).map c.assignment)
    bindings := c.fieldBindings values.entries } ++ c.wherePlaceholders filter

/-- Deletes the records whose fields equal bound values, and every record if there are none. Model
    of `build_delete`. -/
def delete (c : Compiler) (d : Descriptor) (filter : Parameters) : Statement :=
  { sql := "DELETE FROM " ++ c.quote d.table } ++ c.wherePlaceholders filter

/-! ## Records -/

/-- The values of a record for the placeholders of columns; a value that the record does not have is
    null. Model of `bind_record`. -/
def columnBindings (c : Compiler) (columns : List String) (values : List (String × Value)) :
    List Binding :=
  columns.map fun column => ⟨c.placeholder column, Value.firstOf values column⟩

end RecordSql.Compiler
