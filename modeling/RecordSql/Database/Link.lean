import RecordSql.Connection.Basic
import RecordSql.Database.Basic
import RecordSql.Dialect.Driver
import RecordSql.Statement.Positional

/-!
# Links

A connection to the database behind a URL. It is opened when it is first needed. Statements become
positional ones before they are sent, in the markers that the database understands.
-/

namespace RecordSql

/-- A connection to a database, together with the database. -/
structure Link (δ η : Type) where
  /-- What the database gave for a connection that is open. -/
  handle : Option η := none
  state : ConnectionState := .closed
  database : δ

namespace Link

variable {δ η : Type}

/-- The name of the driver's type for a URL. Model of `SqlxConnection::type_name`. -/
def typeName (url : String) : String :=
  match Dialect.ofUrl url with
  | .mySql => "sqlx::mysql::MySqlConnection"
  | _ => "sqlx::any::AnyConnection"

/-- The markers that the database behind a URL understands. Model of
    `SqlxConnection::numbered_markers`. -/
def markerStyle (url : String) : MarkerStyle :=
  if "postgres".toList.isPrefixOf url.toList then .numbered else .question

/-- Makes a call to the database and gives its outcome. -/
def call {α : Type} (c : Call δ α) : Action (Link δ η) (Except String α) := do
  let link ← get
  let (outcome, database) := StateT.run (ExceptT.run c) link.database
  set { link with database }
  return outcome

/-- The result of a call, or the failure that its text becomes. -/
def resultOf {α : Type} (cause : String → Error) : Except String α → Action (Link δ η) α
  | .ok a => return a
  | .error message => Action.fail (cause message)

/-- Reaches the database. The connection is open if that succeeds and closed if it fails. Model of
    `SqlxConnection::open`. -/
def connect (db : Database δ η) (url : String) : Action (Link δ η) Unit := do
  modify fun link => { link with state := .connecting }
  match ← call (db.connect url) with
  | .ok handle => modify fun link => { link with handle := some handle, state := .opened }
  | .error message =>
    modify fun link => { link with state := .closed }
    Action.fail (.connection message)

/-- Leaves the database. The handle is given up even if the database fails to close it, in which
    case the state is kept. Model of `SqlxConnection::close`. -/
def close (db : Database δ η) : Action (Link δ η) Unit := do
  match (← get).handle with
  | none => pure ()
  | some handle =>
    modify fun link => { link with handle := none }
    resultOf .connection (← call (db.close handle))
  modify fun link => { link with state := .closed }

/-- Sends a statement on the handle. Nothing is sent if the statement has no positional form or
    there is no handle. Model of `SqlxConnection::execute` and `SqlxConnection::query`. -/
def send {α : Type} (url : String) (s : Statement)
    (run : η → String → List Bound → Call δ α) : Action (Link δ η) α := do
  match s.positional? (markerStyle url) with
  | none => throw .overlap
  | some p =>
    let link ← get
    match link.handle with
    | none => Action.fail (.invalidState link.state)
    | some handle => resultOf .database (← call (run handle p.sql (p.values.map Value.bound)))

/-- The connection to the database behind a URL. -/
def connection (db : Database δ η) (url : String) : Connection (Link δ η) where
  typeName := typeName url
  state := Link.state
  connect := connect db url
  execute s := send url s db.execute
  query s := do return (← send url s db.query).map Row.ofCells

end Link

end RecordSql
