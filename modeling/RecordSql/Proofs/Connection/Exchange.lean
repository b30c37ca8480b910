import RecordSql.Proofs.Connection.Contacts
import RecordSql.Proofs.Except

/-!
# Exchanges with a connection

An operation that is not refused hands one request to a connection, which is opened before if it is
closed. What it makes of the answer has nothing to do with the connection.

* `Operation.perform_eq`: an operation is its exchange followed by its conclusion.
* `Operation.refusesRow_of_conclude`: a conclusion fails for a state only if the records' type does.
-/

namespace RecordSql

/-! ## Answers -/

/-- What a connection answers to a request. -/
inductive Answer
  | affected (count : Nat)
  | rows (rows : List Row)

namespace Connection

variable {σ β : Type} (c : Connection σ)

/-- Hands a request to a connection. -/
def ask : Request → Action σ Answer
  | .execute s => do return .affected (← c.execute s)
  | .query s => do return .rows (← c.query s)

/-- Opens the connection if it is closed, and hands a request to it. -/
def exchange (request : Request) : Action σ Answer := do
  c.ensureOpen
  c.ask request

theorem run_exchange_of_opened {s : σ} (h : c.state s = .opened) (request : Request) :
    (c.exchange request).run s = (c.ask request).run s := by
  rw [exchange, Action.run_bind, run_ensureOpen, h]

theorem run_exchange_of_closed {s : σ} (h : c.state s = .closed) (request : Request) :
    (c.exchange request).run s = (c.connect >>= fun _ => c.ask request).run s := by
  rw [exchange, Action.run_bind, Action.run_bind, run_ensureOpen, h]

theorem exchange_execute_bind (statement : Statement) (next : Answer → Action σ β) :
    c.exchange (.execute statement) >>= next =
      Command.execute { statement } c >>= fun count => next (.affected count) := by
  simp [Command.execute, Command.prepare, exchange, ask]

theorem exchange_query_bind (statement : Statement) (next : Answer → Action σ β) :
    c.exchange (.query statement) >>= next =
      Command.query { statement } c >>= fun rows => next (.rows rows) := by
  simp [Command.query, Command.prepare, exchange, ask]

end Connection

/-! ## Conclusions -/

theorem Action.run_ofExcept {σ α : Type} (r : Except Error α) (s : σ) :
    (ofExcept r).run s = (r.mapError .error, s) := by
  cases r <;> rfl

/-- What is concluded from a result changes nothing. -/
theorem Action.run_bind_ofExcept {σ α β : Type} (a : Action σ α) (f : α → Except Error β) (s : σ) :
    (a >>= fun x => ofExcept (f x)).run s =
      ((a.run s).1.bind fun x => (f x).mapError .error, (a.run s).2) := by
  rw [run_bind]
  rcases a.run s with ⟨e | x, after⟩
  · rfl
  · exact run_ofExcept (f x) after

/-- Leaving out a result that is concluded leaves it out of the conclusion. -/
theorem Action.ofExcept_bind_unit {σ α : Type} (r : Except Error α) :
    ((ofExcept r : Action σ α) >>= fun _ => pure ()) = ofExcept (r.map fun _ => ()) := by
  cases r <;> rfl

namespace RecordType

variable {α : Type} (t : RecordType α)

/-- Makes a record of each row. -/
def concludeAll (rows : List Row) : Except Error Unit :=
  (rows.mapM t.ofRow).map fun _ => ()

/-- Makes a record of the only row, if there is one. -/
def ofRows (rows : List Row) : Except Error (Option α) := do
  match ← Command.atMostOne rows with
  | none => return none
  | some row => (t.ofRow row).map some

/-- Makes a record of the only row, if there is one; the record is left out. -/
def concludeSingle (rows : List Row) : Except Error Unit := do
  match ← Command.atMostOne rows with
  | none => return
  | some row => (t.ofRow row).map fun _ => ()

theorem concludeSingle_eq (rows : List Row) :
    t.concludeSingle rows = (t.ofRows rows).map fun _ => () := by
  rw [concludeSingle, ofRows]
  cases Command.atMostOne rows with
  | error e => rfl
  | ok row =>
    cases row with
    | none => rfl
    | some row =>
      show (t.ofRow row).map _ = ((t.ofRow row).map some).map _
      cases t.ofRow row <;> rfl

end RecordType

namespace RecordOperation

variable {σ α : Type}

/-- What an operation makes of an answer; what it gives is left out. -/
def conclude (t : RecordType α) : RecordOperation α → Answer → Except Error Unit
  | getAll, .rows rows | getLiterals _, .rows rows | getWhere _, .rows rows => t.concludeAll rows
  | getSingle _, .rows rows | insert _ _, .rows rows => t.concludeSingle rows
  | _, _ => .ok ()

end RecordOperation

namespace Session

variable {σ α : Type} (c : Connection σ) (compiler : Compiler) (t : RecordType α)

theorem fetch_bind_unit (statement : Statement) :
    (Session.fetch ⟨c, compiler⟩ t statement >>= fun _ => pure ()) =
      Command.query { statement } c >>= fun rows => Action.ofExcept (t.concludeAll rows) := by
  rw [fetch, bind_assoc]
  simp only [Action.ofExcept_bind_unit]
  rfl

theorem fetchSingle_eq (statement : Statement) :
    Session.fetchSingle ⟨c, compiler⟩ t statement =
      Command.query { statement } c >>= fun rows => Action.ofExcept (t.ofRows rows) := by
  rw [fetchSingle, Command.querySingle, bind_assoc]
  congr 1
  funext rows
  rw [RecordType.ofRows]
  cases Command.atMostOne rows with
  | error e => rfl
  | ok row => cases row <;> rfl

theorem fetchSingle_bind_unit (statement : Statement) :
    (Session.fetchSingle ⟨c, compiler⟩ t statement >>= fun _ => pure ()) =
      Command.query { statement } c >>= fun rows => Action.ofExcept (t.concludeSingle rows) := by
  rw [fetchSingle_eq, bind_assoc]
  simp only [Action.ofExcept_bind_unit, RecordType.concludeSingle_eq]

end Session

theorem RecordOperation.perform_eq {σ α : Type} (c : Connection σ) (compiler : Compiler)
    (t : RecordType α) (operation : RecordOperation α) (h : operation.refusal? = none) :
    operation.perform ⟨c, compiler⟩ t =
      c.exchange (operation.request compiler t) >>= fun answer =>
        Action.ofExcept (operation.conclude t answer) := by
  cases operation with
  | getAll | getLiterals _ | getWhere _ =>
    rw [request, c.exchange_query_bind]
    exact Session.fetch_bind_unit c compiler t _
  | getSingle _ =>
    rw [request, c.exchange_query_bind]
    exact Session.fetchSingle_bind_unit c compiler t _
  | insert record identity =>
    unfold request perform Session.insert
    by_cases hback : compiler.readsBack identity
    · simp only [hback, if_true]
      rw [c.exchange_query_bind]
      exact Session.fetchSingle_bind_unit c compiler t _
    · simp only [hback]
      rw [if_neg (by simp), if_neg (by simp), c.exchange_execute_bind, bind_assoc]
      rfl
  | updateAll values =>
    have hvalues : ¬ values.isEmpty := by
      intro hempty
      simp [refusal?, hempty] at h
    rw [request, c.exchange_execute_bind, perform, Session.updateAll, if_neg hvalues]
    rfl
  | update _ _ | delete _ =>
    rw [request, c.exchange_execute_bind]
    rfl

namespace Operation

variable {σ : Type}

/-- What an operation makes of an answer; what it gives is left out. -/
def conclude : Operation → Answer → Except Error Unit
  | records _ t operation, answer => operation.conclude t answer
  | querySingle _, .rows rows => (Command.atMostOne rows).map fun _ => ()
  | _, _ => .ok ()

/-- **One exchange.** An operation that is not refused hands its request to the connection once, and
    draws its conclusion from the answer alone. -/
theorem perform_eq (c : Connection σ) (operation : Operation) (h : operation.refusal? = none) :
    operation.perform c =
      c.exchange operation.request >>= fun answer =>
        Action.ofExcept (operation.conclude answer) := by
  cases operation with
  | records compiler t operation => exact operation.perform_eq c compiler t h
  | execute command =>
    obtain ⟨statement, rfl⟩ := command.exists_text (by simpa [refusal?] using h)
    rw [request, c.exchange_execute_bind]
    rfl
  | query command =>
    obtain ⟨statement, rfl⟩ := command.exists_text (by simpa [refusal?] using h)
    rw [request, c.exchange_query_bind]
    rfl
  | querySingle command =>
    obtain ⟨statement, rfl⟩ := command.exists_text (by simpa [refusal?] using h)
    rw [request, c.exchange_query_bind, perform, Command.querySingle, bind_assoc]
    simp only [Action.ofExcept_bind_unit]
    rfl

end Operation

/-! ## Failures of conclusions -/

/-- An operation is not refused for the state of a connection. -/
theorem Operation.refusal?_ne_invalidState (operation : Operation) (state : ConnectionState) :
    operation.refusal? ≠ some (.invalidState state) := by
  cases operation with
  | records compiler t operation =>
    cases operation with
    | updateAll values =>
      show (if values.isEmpty then some _ else none) ≠ _
      split <;> simp
    | _ => simp [refusal?, RecordOperation.refusal?]
  | _ command =>
    show (if command.kind = .procedure then some _ else none) ≠ _
    split <;> simp

/-- The type of the operation's records refuses some row with this error. -/
def Operation.RefusesRow (e : Error) : Operation → Prop
  | records _ t _ => ∃ row, t.ofRow row = .error e
  | _ => False

theorem Command.atMostOne_ne_invalidState (rows : List Row) (state : ConnectionState) :
    atMostOne rows ≠ .error (.invalidState state) := by
  unfold atMostOne Error.ambiguous
  split <;> simp

namespace RecordType

variable {α : Type} (t : RecordType α)

theorem exists_row_of_mapM {rows : List Row} {e : Error} (h : rows.mapM t.ofRow = .error e) :
    ∃ row, t.ofRow row = .error e := by
  obtain ⟨before, row, after, -, -, hrow⟩ := mapM_eq_error_iff.mp h
  exact ⟨row, hrow⟩

theorem exists_row_of_concludeSingle {rows : List Row} {state : ConnectionState}
    (h : t.concludeSingle rows = .error (.invalidState state)) :
    ∃ row, t.ofRow row = .error (.invalidState state) := by
  rw [concludeSingle] at h
  cases hrows : Command.atMostOne rows with
  | error e =>
    rw [hrows] at h
    cases h
    exact absurd hrows (Command.atMostOne_ne_invalidState rows state)
  | ok row =>
    rw [hrows] at h
    cases row with
    | none => cases h
    | some row => exact ⟨row, map_eq_error_iff.mp h⟩

end RecordType

/-- Only the type of the records can make a conclusion that blames the state of the connection. -/
theorem Operation.refusesRow_of_conclude {operation : Operation} {answer : Answer}
    {state : ConnectionState} (h : operation.conclude answer = .error (.invalidState state)) :
    operation.RefusesRow (.invalidState state) := by
  cases answer with
  | affected count =>
    cases operation with
    | records compiler t operation => cases operation <;> cases h
    | _ => cases h
  | rows rows =>
    cases operation with
    | records compiler t operation =>
      cases operation with
      | getAll | getLiterals _ | getWhere _ => exact t.exists_row_of_mapM (map_eq_error_iff.mp h)
      | getSingle _ | insert _ _ => exact t.exists_row_of_concludeSingle h
      | update _ _ | updateAll _ | delete _ => cases h
    | execute command | query command => cases h
    | querySingle command =>
      exact absurd (map_eq_error_iff.mp h) (Command.atMostOne_ne_invalidState rows state)

end RecordSql
