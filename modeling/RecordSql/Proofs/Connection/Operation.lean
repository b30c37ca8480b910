import RecordSql.Connection.Recorded
import RecordSql.Connection.Session

/-!
# Operations on a connection

Everything that can be done with a connection, as data: the operations of a session on the records
of some type, and the commands that are run without a session. An operation knows the statement that
it asks a connection to run, and whether it is refused before the connection is looked at.
-/

namespace RecordSql

/-- The statement of a request. -/
def Request.statement : Request → Statement
  | execute s | query s => s

/-- An operation of a session on the records of a type. -/
inductive RecordOperation (α : Type)
  | getAll
  | getLiterals (filters : Filters)
  | getWhere (parameters : Parameters)
  | getSingle (parameters : Parameters)
  | insert (record : α) (identity : Option String)
  | update (record : α) (key : List String)
  | updateAll (values : Parameters)
  | delete (parameters : Parameters)

namespace RecordOperation

variable {σ α : Type}

/-- Does the operation; what it gives is left out. -/
def perform (s : Session σ) (t : RecordType α) : RecordOperation α → Action σ Unit
  | getAll => do let _ ← s.getAll t
  | getLiterals filters => do let _ ← s.getLiterals t filters
  | getWhere parameters => do let _ ← s.getWhere t parameters
  | getSingle parameters => do let _ ← s.getSingle t parameters
  | insert record identity => do let _ ← s.insert t record identity
  | update record key => do let _ ← s.update t record key
  | updateAll values => do let _ ← s.updateAll t values
  | delete parameters => do let _ ← s.delete t parameters

/-- What the operation asks a connection to run. -/
def request (c : Compiler) (t : RecordType α) : RecordOperation α → Request
  | getAll => .query (c.select t.schema.descriptor)
  | getLiterals filters => .query (c.selectLiterals t.schema.descriptor filters)
  | getWhere parameters | getSingle parameters =>
    .query (c.selectWhere t.schema.descriptor parameters)
  | insert record identity =>
    if c.readsBack identity then .query (t.insertStatement c record identity)
    else .execute (t.insertStatement c record identity)
  | update record key => .execute (t.updateStatement c record key)
  | updateAll values => .execute (c.update t.schema.descriptor values .empty)
  | delete parameters => .execute (c.delete t.schema.descriptor parameters)

/-- Why the operation is refused whatever the connection is like, if it is. -/
def refusal? : RecordOperation α → Option Error
  | updateAll values =>
    if values.isEmpty then
      some (.invalidOperation "bulk update needs at least one field to set")
    else none
  | _ => none

end RecordOperation

/-- Something that is done with a connection. -/
inductive Operation : Type 1
  | records {α : Type} (compiler : Compiler) (t : RecordType α) (operation : RecordOperation α)
  | execute (command : Command)
  | query (command : Command)
  | querySingle (command : Command)

namespace Operation

variable {σ : Type}

/-- Does the operation on a connection; what it gives is left out. -/
def perform (c : Connection σ) : Operation → Action σ Unit
  | records compiler t operation => operation.perform ⟨c, compiler⟩ t
  | execute command => do let _ ← command.execute c
  | query command => do let _ ← command.query c
  | querySingle command => do let _ ← command.querySingle c

/-- What the operation asks the connection to run. -/
def request : Operation → Request
  | records compiler t operation => operation.request compiler t
  | execute command => .execute command.statement
  | query command | querySingle command => .query command.statement

/-- Why the operation is refused whatever the connection is like, if it is. -/
def refusal? : Operation → Option Error
  | records _ _ operation => operation.refusal?
  | execute command | query command | querySingle command =>
    if command.kind = .procedure then some (.notImplemented "stored procedure commands") else none

/-- The state of a connection after operations, each of which is done whether or not those before it
    have failed. -/
def after (c : Connection σ) : σ → List Operation → σ
  | s, [] => s
  | s, operation :: rest => after c ((operation.perform c).run s).2 rest

theorem after_append (c : Connection σ) (s : σ) (earlier later : List Operation) :
    after c s (earlier ++ later) = after c (after c s earlier) later := by
  induction earlier generalizing s with
  | nil => rfl
  | cons operation earlier ih => exact ih _

end Operation

end RecordSql
