import RecordSql.Compiler.Statements
import RecordSql.Connection.Command
import RecordSql.Dialect.Driver

/-!
# Sessions

Operations on records over one connection. A record type says how its records are declared, which
values they hold and how they are made from rows.
-/

namespace RecordSql

/-- What is known of a type of records. Model of the traits `Entity` and `FromRow`. -/
structure RecordType (α : Type) where
  schema : Schema
  /-- The values of a record, by field. -/
  values : α → List (String × Value)
  ofRow : Row → Except Error α

/-! ## Statements about a record -/

namespace RecordType

variable {α : Type}

/-- Inserts a record: the values of every column but the identity are bound. Model of the statement
    of `Session::insert`. -/
def insertStatement (t : RecordType α) (c : Compiler) (record : α) (identity : Option String) :
    Statement :=
  let d := t.schema.descriptor
  let columns := d.columns.filter fun column => some column != identity
  (c.insert d identity .empty).bindAll (c.columnBindings columns (t.values record))

/-- The values that a record is found by. -/
def keyFilter (values : List (String × Value)) (key : List String) : Parameters :=
  .ofList (key.map fun field => (field, Value.firstOf values field))

/-- Updates every column of the records that have the key fields of this one. The new values are
    bound before those of the key, as their placeholders stand in the text. Model of the statement
    of `Session::update`. -/
def updateStatement (t : RecordType α) (c : Compiler) (record : α) (key : List String) :
    Statement :=
  let d := t.schema.descriptor
  let values := t.values record
  let statement := c.update d .empty (keyFilter values key)
  { statement with bindings := c.columnBindings d.columns values ++ statement.bindings }

end RecordType

/-! ## Operations -/

/-- Operations on records over a connection. -/
structure Session (σ : Type) where
  connection : Connection σ
  compiler : Compiler

namespace Session

variable {σ α : Type}

/-- The session in the dialect that the driver of the connection is known for. Model of
    `Session::new`. -/
def ofConnection (c : Connection σ) : Session σ :=
  ⟨c, { dialect := .ofDriver c.typeName }⟩

/-- The session in a given dialect. Model of `Session::with_dialect`. -/
def withDialect (c : Connection σ) (d : Dialect) : Session σ :=
  ⟨c, { dialect := d }⟩

/-- Runs a statement and makes a record of each row. Model of `Session::fetch`. -/
def fetch (s : Session σ) (t : RecordType α) (statement : Statement) : Action σ (List α) := do
  let rows ← Command.query { statement } s.connection
  Action.ofExcept (rows.mapM t.ofRow)

/-- Runs a statement and makes a record of its only row, if there is one. -/
def fetchSingle (s : Session σ) (t : RecordType α) (statement : Statement) :
    Action σ (Option α) := do
  match ← Command.querySingle { statement } s.connection with
  | none => return none
  | some row => Action.ofExcept ((t.ofRow row).map some)

/-- Every record. Model of `Session::get_all`. -/
def getAll (s : Session σ) (t : RecordType α) : Action σ (List α) :=
  s.fetch t (s.compiler.select t.schema.descriptor)

/-- The records whose fields equal literals. Model of `Session::get_where_inline`. -/
def getLiterals (s : Session σ) (t : RecordType α) (filters : Filters) : Action σ (List α) :=
  s.fetch t (s.compiler.selectLiterals t.schema.descriptor filters)

/-- The records whose fields equal values. Model of `Session::get_where`. -/
def getWhere (s : Session σ) (t : RecordType α) (parameters : Parameters) : Action σ (List α) :=
  s.fetch t (s.compiler.selectWhere t.schema.descriptor parameters)

/-- The only record whose fields equal values, if there is one. Model of `Session::get_single`. -/
def getSingle (s : Session σ) (t : RecordType α) (parameters : Parameters) :
    Action σ (Option α) :=
  s.fetchSingle t (s.compiler.selectWhere t.schema.descriptor parameters)

/-- Inserts a record. The new record is given back where there is an identity field and the dialect
    can read it back. Model of `Session::insert`. -/
def insert (s : Session σ) (t : RecordType α) (record : α) (identity : Option String) :
    Action σ (Option α) := do
  let statement := t.insertStatement s.compiler record identity
  if s.compiler.readsBack identity then s.fetchSingle t statement
  else
    let _ ← Command.execute { statement } s.connection
    return none

/-- Updates every field of the records that have the key fields of this one; without key fields
    those are all records. Model of `Session::update`. -/
def update (s : Session σ) (t : RecordType α) (record : α) (key : List String) : Action σ Nat :=
  Command.execute { statement := t.updateStatement s.compiler record key } s.connection

/-- Gives fields the same values in every record. Model of `Session::update_all`. -/
def updateAll (s : Session σ) (t : RecordType α) (values : Parameters) : Action σ Nat :=
  if values.isEmpty then
    Action.fail (.invalidOperation "bulk update needs at least one field to set")
  else
    Command.execute { statement := s.compiler.update t.schema.descriptor values .empty }
      s.connection

/-- Deletes the records whose fields equal values. Model of `Session::delete`. -/
def delete (s : Session σ) (t : RecordType α) (parameters : Parameters) : Action σ Nat :=
  Command.execute { statement := s.compiler.delete t.schema.descriptor parameters } s.connection

end Session

end RecordSql
