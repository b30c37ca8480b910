import RecordSql.Connection.Row
import RecordSql.Statement.Basic

/-!
# Connections

What this library asks of a connection to a database: to say in which state it is, to be opened, and
to run statements. The connection itself is a state of any type, and each operation may change it
whether it succeeds or fails.
-/

namespace RecordSql

/-- Why an operation on a connection has no result. -/
inductive Failure
  | error (e : Error)
  /-- Two names that are bound claim overlapping places of the statement, so it cannot be run. -/
  | overlap
  deriving DecidableEq, Repr

/-- An operation on a connection, which gives a result or fails and leaves a new state. -/
abbrev Action (σ α : Type) : Type :=
  ExceptT Failure (StateM σ) α

namespace Action

/-- Runs an operation on a state. -/
def run {σ α : Type} (a : Action σ α) (s : σ) : Except Failure α × σ :=
  StateT.run (ExceptT.run a) s

/-- The operation that fails with an error and changes nothing. -/
def fail {σ α : Type} (e : Error) : Action σ α :=
  throw (.error e)

/-- The operation that has this result and changes nothing. -/
def ofExcept {σ α : Type} : Except Error α → Action σ α
  | .ok a => pure a
  | .error e => fail e

section Run

variable {σ α β : Type}

@[simp] theorem run_pure (x : α) (s : σ) : (pure x : Action σ α).run s = (.ok x, s) := rfl

@[simp] theorem run_throw (e : Failure) (s : σ) :
    (throw e : Action σ α).run s = (.error e, s) := rfl

@[simp] theorem run_fail (e : Error) (s : σ) :
    (fail e : Action σ α).run s = (.error (.error e), s) := rfl

@[simp] theorem run_get_bind (f : σ → Action σ α) (s : σ) :
    (get >>= f : Action σ α).run s = (f s).run s := rfl

@[simp] theorem run_modify_bind (g : σ → σ) (f : PUnit → Action σ α) (s : σ) :
    (modify g >>= f : Action σ α).run s = (f ⟨⟩).run (g s) := rfl

/-- What follows an operation is run on the state that it leaves, unless it fails. -/
theorem run_bind (a : Action σ α) (f : α → Action σ β) (s : σ) :
    (a >>= f).run s =
      match a.run s with
      | (.ok x, after) => (f x).run after
      | (.error e, after) => (.error e, after) := by
  rcases h : a.run s with ⟨e | x, after⟩
  all_goals
    change StateT.run (ExceptT.run (a >>= f)) s = _
    rw [ExceptT.run_bind, StateT.run_bind, show StateT.run (ExceptT.run a) s = _ from h]
    rfl

theorem run_bind_of_ok {a : Action σ α} {s : σ} {x : α} (h : (a.run s).1 = .ok x)
    (f : α → Action σ β) : (a >>= f).run s = (f x).run (a.run s).2 := by
  rw [run_bind]
  rcases hrun : a.run s with ⟨outcome, after⟩
  rw [hrun] at h
  obtain rfl : outcome = .ok x := h
  rfl

theorem run_bind_of_error {a : Action σ α} {s : σ} {e : Failure} (h : (a.run s).1 = .error e)
    (f : α → Action σ β) : (a >>= f).run s = (.error e, (a.run s).2) := by
  rw [run_bind]
  rcases hrun : a.run s with ⟨outcome, after⟩
  rw [hrun] at h
  obtain rfl : outcome = .error e := h
  rfl

/-- What is made of a result changes nothing. -/
theorem run_bind_pure (a : Action σ α) (f : α → β) (s : σ) :
    (a >>= fun x => pure (f x)).run s = ((a.run s).1.map f, (a.run s).2) := by
  rw [run_bind]
  rcases a.run s with ⟨e | x, after⟩ <;> rfl

end Run

end Action

/-- A way to reach a database, over connections that are states of the type `σ`. Model of the trait
    `Connection`. -/
structure Connection (σ : Type) where
  /-- The name of the type of the driver. -/
  typeName : String
  state : σ → ConnectionState
  connect : Action σ Unit
  /-- Runs a statement and gives the number of rows that it changed. -/
  execute : Statement → Action σ Nat
  /-- Runs a statement and gives the rows of its result. -/
  query : Statement → Action σ (List Row)

end RecordSql
