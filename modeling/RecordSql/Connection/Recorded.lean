import RecordSql.Connection.Basic

/-!
# Recorded connections

A connection without a database: it answers as told in advance, and keeps what it was asked.
-/

namespace RecordSql

/-- A statement that a connection was asked to run. -/
inductive Request
  | execute (s : Statement)
  | query (s : Statement)
  deriving DecidableEq

/-- A connection that answers as told. -/
structure Recorded where
  state : ConnectionState := .closed
  /-- How often it was opened. -/
  opened : Nat := 0
  /-- What it was asked to run, in order. -/
  requests : List Request := []
  /-- The rows that a query gives. -/
  rows : List Row := []
  /-- The number of rows that a statement changes. -/
  affected : Nat := 1
  /-- What the database says if it fails. -/
  failure : Option String := none

namespace Recorded

/-- Counts an attempt to open. It leaves the connection in the given state, or fails and leaves the
    state alone. -/
def connect (result : Except String ConnectionState) : Action Recorded Unit := do
  modify fun r => { r with opened := r.opened + 1 }
  match result with
  | .ok state => modify fun r => { r with state }
  | .error message => Action.fail (.connection message)

/-- Keeps a request and gives the answer, or fails as told. -/
def answer {α : Type} (request : Request) (result : Recorded → α) : Action Recorded α := do
  modify fun r => { r with requests := r.requests ++ [request] }
  let r ← get
  match r.failure with
  | some message => Action.fail (.database message)
  | none => return result r

/-- The recorded connections of a driver, with what becomes of an attempt to open them. -/
def connection (typeName : String) (result : Except String ConnectionState) :
    Connection Recorded where
  typeName
  state := Recorded.state
  connect := connect result
  execute s := answer (.execute s) Recorded.affected
  query s := answer (.query s) Recorded.rows

end Recorded

end RecordSql
