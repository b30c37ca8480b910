import RecordSql.Connection.Basic

/-!
# Commands

A statement is run only on a connection that is open. A closed connection is opened first; one in
any other state is refused. Stored procedures are refused before the connection is looked at.
-/

namespace RecordSql

/-- How the text of a command is meant. -/
inductive CommandKind
  | text
  | procedure
  deriving DecidableEq, Repr

/-- A statement together with how it is meant. -/
structure Command where
  statement : Statement
  kind : CommandKind := .text
  deriving DecidableEq

/-- Opens a closed connection and lets an open one pass. Model of `ensure_open`. -/
def Connection.ensureOpen {σ : Type} (c : Connection σ) : Action σ Unit := do
  match c.state (← get) with
  | .opened => return
  | .closed => c.connect
  | state => Action.fail (.invalidState state)

theorem Connection.run_ensureOpen {σ : Type} (c : Connection σ) (s : σ) :
    c.ensureOpen.run s =
      match c.state s with
      | .opened => (.ok (), s)
      | .closed => c.connect.run s
      | state => (.error (.error (.invalidState state)), s) := by
  rw [ensureOpen, Action.run_get_bind]
  cases c.state s <;> rfl

namespace Command

variable {σ : Type}

/-- Brings the connection into the state in which the statement can be run. Model of `prepare`. -/
def prepare (cmd : Command) (c : Connection σ) : Action σ Unit :=
  match cmd.kind with
  | .procedure => Action.fail (.notImplemented "stored procedure commands")
  | .text => c.ensureOpen

/-- Runs a command and gives the number of rows that it changed. Model of `execute`. -/
def execute (cmd : Command) (c : Connection σ) : Action σ Nat := do
  cmd.prepare c
  c.execute cmd.statement

/-- Runs a command and gives the rows of its result. Model of `query`. -/
def query (cmd : Command) (c : Connection σ) : Action σ (List Row) := do
  cmd.prepare c
  c.query cmd.statement

/-- The only row of a result, if there is one; more than one row is an error. Model of the count of
    rows in `query_single`. -/
def atMostOne : List Row → Except Error (Option Row)
  | [] => .ok none
  | [r] => .ok (some r)
  | rows => .error (.ambiguous rows.length)

/-- Runs a command whose result has at most one row. Model of `query_single`. -/
def querySingle (cmd : Command) (c : Connection σ) : Action σ (Option Row) := do
  Action.ofExcept (atMostOne (← cmd.query c))

end Command

end RecordSql
