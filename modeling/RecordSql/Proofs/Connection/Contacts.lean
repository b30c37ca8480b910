import RecordSql.Proofs.Connection.Operation

/-!
# Contacts with a connection

A watched connection behaves as the connection itself and keeps, in order, every attempt to open it
and every statement that it is asked to run, with the state that it was in before. What an operation
does with a connection is what a watched connection has kept afterwards.

* `Attempt.command_execute`, `Attempt.command_query`: a command opens the connection at most once
  and runs its statement at most once.
* `Attempt.perform`: so does every operation that is not refused.
* `contacts_of_run`: the contacts of each operation of a run, and the statements of the whole run.
-/

namespace RecordSql

/-- An attempt to open a connection or to run a statement on it. -/
inductive Contact
  | connect (before : ConnectionState) (outcome : Except Failure Unit)
  | run (before : ConnectionState) (request : Request)

/-! ## Watched connections -/

/-- The operation on a connection together with the contact that it is. -/
def Connection.watch {σ α : Type} (c : Connection σ) (a : Action σ α)
    (contact : ConnectionState → Except Failure α → Contact) : Action (σ × List Contact) α :=
  ExceptT.mk fun p =>
    let (outcome, s) := a.run p.1
    (outcome, (s, p.2 ++ [contact (c.state p.1) outcome]))

/-- The connection that keeps the contacts with it. -/
def Connection.watched {σ : Type} (c : Connection σ) : Connection (σ × List Contact) where
  typeName := c.typeName
  state p := c.state p.1
  connect := c.watch c.connect .connect
  execute s := c.watch (c.execute s) fun before _ => .run before (.execute s)
  query s := c.watch (c.query s) fun before _ => .run before (.query s)

theorem Connection.run_watch {σ α : Type} (c : Connection σ) (a : Action σ α)
    (contact : ConnectionState → Except Failure α → Contact) (s : σ) (log : List Contact) :
    (c.watch a contact).run (s, log) =
      ((a.run s).1, ((a.run s).2, log ++ [contact (c.state s) (a.run s).1])) := rfl

/-! ## Attempts to run a statement -/

section Attempts

variable {σ α β : Type}

/-- The contacts that an attempt to run a statement can make, by the state that the connection is
    found in, and what they mean for the outcome. -/
inductive Served (c : Connection σ) (request : Request) (s : σ) :
    Except Failure α → List Contact → Prop
  /-- A connection that is open runs the statement. -/
  | opened {outcome : Except Failure α} : c.state s = .opened →
      Served c request s outcome [.run .opened request]
  /-- A closed connection that can be opened runs the statement then. -/
  | connected {outcome : Except Failure α} : c.state s = .closed → (c.connect.run s).1 = .ok () →
      Served c request s outcome
        [.connect .closed (.ok ()), .run (c.state (c.connect.run s).2) request]
  /-- A closed connection that cannot be opened is left alone, and the reason is the outcome. -/
  | unreachable {e : Failure} : c.state s = .closed → (c.connect.run s).1 = .error e →
      Served c request s (.error e) [.connect .closed (.error e)]
  /-- A connection in any other state is not touched, and the state is the outcome. -/
  | unusable : c.state s ≠ .opened → c.state s ≠ .closed →
      Served c request s (.error (.error (.invalidState (c.state s)))) []

/-- The first operation does on the watched connection what the second does on the connection, and
    makes the contacts of an attempt to run the statement. -/
def Attempt (c : Connection σ) (request : Request) (watched : Action (σ × List Contact) α)
    (plain : Action σ α) : Prop :=
  ∀ s log, ∃ made,
    watched.run (s, log) = ((plain.run s).1, ((plain.run s).2, log ++ made)) ∧
      Served c request s (plain.run s).1 made

/-- The first operation does on a watched connection what the second does, without any contact. -/
def Silent (watched : Action (σ × List Contact) α) (plain : Action σ α) : Prop :=
  ∀ s log, watched.run (s, log) = ((plain.run s).1, ((plain.run s).2, log))

theorem Silent.pure (x : α) : Silent (σ := σ) (Pure.pure x) (Pure.pure x) :=
  fun _ _ => rfl

theorem Silent.fail (e : Error) : Silent (σ := σ) (α := α) (Action.fail e) (Action.fail e) :=
  fun _ _ => rfl

theorem Silent.ofExcept (r : Except Error α) :
    Silent (σ := σ) (Action.ofExcept r) (Action.ofExcept r) := by
  cases r with
  | ok x => exact Silent.pure x
  | error e => exact Silent.fail e

/-- What is done with the outcome of an attempt, without any contact, leaves it an attempt. -/
theorem Attempt.bind {c : Connection σ} {request : Request}
    {watched : Action (σ × List Contact) α} {plain : Action σ α}
    (h : Attempt c request watched plain) {next : α → Action (σ × List Contact) β}
    {nextPlain : α → Action σ β} (hnext : ∀ x, Silent (next x) (nextPlain x)) :
    Attempt c request (watched >>= next) (plain >>= nextPlain) := by
  intro s log
  obtain ⟨made, hrun, hserved⟩ := h s log
  rw [Action.run_bind, Action.run_bind, hrun]
  rcases hp : plain.run s with ⟨outcome, after⟩
  rw [hp] at hserved
  refine ⟨made, ?_, ?_⟩
  · cases outcome with
    | error e => rfl
    | ok x => exact hnext x after (log ++ made)
  · cases hserved with
    | opened hopened => exact .opened hopened
    | connected hclosed hok => exact .connected hclosed hok
    | unreachable hclosed herror => exact .unreachable hclosed herror
    | unusable hopened hclosed => exact .unusable hopened hclosed

/-- The result of an attempt can be left out. -/
theorem Attempt.unit {c : Connection σ} {request : Request}
    {watched : Action (σ × List Contact) α} {plain : Action σ α}
    (h : Attempt c request watched plain) :
    Attempt c request (do let _ ← watched) (do let _ ← plain) :=
  h.bind fun _ => .pure PUnit.unit

/-- A statement that is run once the connection has been opened is an attempt to run it. -/
theorem Attempt.ensureOpen (c : Connection σ) (request : Request) (a : Action σ α) :
    Attempt c request
      (c.watched.ensureOpen >>= fun _ => c.watch a fun before _ => .run before request)
      (c.ensureOpen >>= fun _ => a) := by
  intro s log
  have hstate : c.watched.state (s, log) = c.state s := rfl
  have hconnect : c.watched.connect.run (s, log) =
      ((c.connect.run s).1, ((c.connect.run s).2,
        log ++ [.connect (c.state s) (c.connect.run s).1])) := rfl
  rw [Action.run_bind, Action.run_bind, Connection.run_ensureOpen, Connection.run_ensureOpen,
    hstate, hconnect]
  cases hs : c.state s with
  | opened => exact ⟨_, by simp only [Connection.run_watch, hs], .opened hs⟩
  | closed =>
    rcases hc : c.connect.run s with ⟨e | ⟨⟩, after⟩
    · exact ⟨_, rfl, .unreachable hs (by rw [hc])⟩
    · refine ⟨[.connect .closed (.ok ()), .run (c.state after) request], ?_, ?_⟩
      · simp [Connection.run_watch]
      · have hconnected : Served c request s (a.run after).1
            [.connect .closed (.ok ()), .run (c.state (c.connect.run s).2) request] :=
          .connected hs (by rw [hc])
        rwa [hc] at hconnected
  | _ =>
    have hopened : c.state s ≠ .opened := by simp [hs]
    have hclosed : c.state s ≠ .closed := by simp [hs]
    have hunusable : Served (α := α) c request s
        (.error (.error (.invalidState (c.state s)))) [] := .unusable hopened hclosed
    exact ⟨[], by simp, by rwa [hs] at hunusable⟩

/-! ## Commands and sessions -/

variable (c : Connection σ) (compiler : Compiler) (t : RecordType α)

theorem Attempt.command_execute (statement : Statement) :
    Attempt c (.execute statement) (Command.execute { statement } c.watched)
      (Command.execute { statement } c) :=
  .ensureOpen c _ (c.execute statement)

theorem Attempt.command_query (statement : Statement) :
    Attempt c (.query statement) (Command.query { statement } c.watched)
      (Command.query { statement } c) :=
  .ensureOpen c _ (c.query statement)

theorem Attempt.command_querySingle (statement : Statement) :
    Attempt c (.query statement) (Command.querySingle { statement } c.watched)
      (Command.querySingle { statement } c) :=
  (command_query c statement).bind fun _ => .ofExcept _

theorem Attempt.fetch (statement : Statement) :
    Attempt c (.query statement) (Session.fetch ⟨c.watched, compiler⟩ t statement)
      (Session.fetch ⟨c, compiler⟩ t statement) :=
  (command_query c statement).bind fun _ => .ofExcept _

theorem Attempt.fetchSingle (statement : Statement) :
    Attempt c (.query statement) (Session.fetchSingle ⟨c.watched, compiler⟩ t statement)
      (Session.fetchSingle ⟨c, compiler⟩ t statement) := by
  refine (command_querySingle c statement).bind fun row => ?_
  cases row with
  | none => exact .pure none
  | some row => exact .ofExcept _

/-- An insertion fetches the new record or leaves it, and attempts to run one statement either way.
    -/
theorem Attempt.insert (record : α) (identity : Option String) :
    Attempt c ((RecordOperation.insert record identity).request compiler t)
      (Session.insert ⟨c.watched, compiler⟩ t record identity)
      (Session.insert ⟨c, compiler⟩ t record identity) := by
  unfold Session.insert RecordOperation.request
  by_cases hback : compiler.readsBack identity
  · simp only [hback, if_true]
    exact fetchSingle c compiler t _
  · simp only [hback]
    exact (command_execute c _).bind fun _ => .pure none

theorem Attempt.updateAll (values : Parameters)
    (h : (RecordOperation.updateAll (α := α) values).refusal? = none) :
    Attempt c ((RecordOperation.updateAll values).request compiler t)
      (Session.updateAll ⟨c.watched, compiler⟩ t values)
      (Session.updateAll ⟨c, compiler⟩ t values) := by
  have hvalues : ¬ values.isEmpty := by
    intro hempty
    simp [RecordOperation.refusal?, hempty] at h
  unfold Session.updateAll
  rw [if_neg hvalues, if_neg hvalues]
  exact command_execute c _

theorem Attempt.records (operation : RecordOperation α) (h : operation.refusal? = none) :
    Attempt c (operation.request compiler t) (operation.perform ⟨c.watched, compiler⟩ t)
      (operation.perform ⟨c, compiler⟩ t) := by
  -- which operations give records, and whether they read a row back, is all that tells them apart
  cases operation with
  | getAll => exact (fetch c compiler t _).unit
  | getLiterals filters => exact (fetch c compiler t _).unit
  | getWhere parameters => exact (fetch c compiler t _).unit
  | getSingle parameters => exact (fetchSingle c compiler t _).unit
  | insert record identity => exact (insert c compiler t record identity).unit
  | update record key => exact (command_execute c _).unit
  | updateAll values => exact (updateAll c compiler t values h).unit
  | delete parameters => exact (command_execute c _).unit

end Attempts

/-! ## Operations -/

section Runs

variable {σ : Type} (c : Connection σ)

theorem RecordOperation.run_of_refusal {α : Type} (compiler : Compiler) (t : RecordType α)
    (operation : RecordOperation α) {e : Error} (h : operation.refusal? = some e) (s : σ) :
    (operation.perform ⟨c, compiler⟩ t).run s = (.error (.error e), s) := by
  cases operation with
  | updateAll values =>
    obtain ⟨hempty, rfl⟩ :
        values.isEmpty ∧ .invalidOperation "bulk update needs at least one field to set" = e := by
      simpa [refusal?] using h
    show ((Session.updateAll _ t values) >>= fun _ => pure PUnit.unit).run s = _
    rw [Action.run_bind, Session.updateAll, if_pos hempty, Action.run_fail]
  | _ => cases h

/-- A command that is refused fails on every connection, and leaves it as it was. -/
theorem Command.run_prepare_of_procedure (command : Command) (h : command.kind = .procedure)
    (s : σ) :
    (command.prepare c).run s =
      (.error (.error (.notImplemented "stored procedure commands")), s) := by
  rw [prepare, h]
  rfl

theorem Command.exists_text (command : Command) (h : command.kind ≠ .procedure) :
    ∃ statement, command = { statement } := by
  obtain ⟨statement, kind⟩ := command
  cases kind with
  | text => exact ⟨statement, rfl⟩
  | procedure => contradiction

theorem Operation.run_of_refusal (operation : Operation) {e : Error}
    (h : operation.refusal? = some e) (s : σ) :
    (operation.perform c).run s = (.error (.error e), s) := by
  cases operation with
  | records compiler t operation => exact operation.run_of_refusal c compiler t h s
  | _ command =>
    obtain ⟨hkind, rfl⟩ :
        command.kind = .procedure ∧ .notImplemented "stored procedure commands" = e := by
      simpa [refusal?] using h
    simp [perform, Command.execute, Command.query, Command.querySingle, Action.run_bind,
      command.run_prepare_of_procedure c hkind s]

theorem Attempt.perform (operation : Operation) (h : operation.refusal? = none) :
    Attempt c operation.request (operation.perform c.watched) (operation.perform c) := by
  cases operation with
  | records compiler t operation => exact records c compiler t operation h
  | execute command =>
    obtain ⟨statement, rfl⟩ := command.exists_text (by simpa [Operation.refusal?] using h)
    exact (command_execute c statement).unit
  | query command =>
    obtain ⟨statement, rfl⟩ := command.exists_text (by simpa [Operation.refusal?] using h)
    exact (command_query c statement).unit
  | querySingle command =>
    obtain ⟨statement, rfl⟩ := command.exists_text (by simpa [Operation.refusal?] using h)
    exact (command_querySingle c statement).unit

/-- What the contacts that an operation makes with a connection have to do with its outcome. -/
def Operation.Meets {α : Type} (operation : Operation) (s : σ) (outcome : Except Failure α)
    (made : List Contact) : Prop :=
  match operation.refusal? with
  | some e => outcome = .error (.error e) ∧ made = []
  | none => Served c operation.request s outcome made

/-- An operation on a watched connection does what it does on the connection, and adds the contacts
    that it makes to those before. -/
theorem Operation.run_watched (operation : Operation) (s : σ) (log : List Contact) :
    ∃ made,
      (operation.perform c.watched).run (s, log) =
        (((operation.perform c).run s).1, (((operation.perform c).run s).2, log ++ made)) ∧
      operation.Meets c s ((operation.perform c).run s).1 made := by
  unfold Operation.Meets
  cases h : operation.refusal? with
  | some e =>
    rw [operation.run_of_refusal c.watched h, operation.run_of_refusal c h]
    exact ⟨[], by rw [List.append_nil], rfl, rfl⟩
  | none => exact Attempt.perform c operation h s log

end Runs

/-! ## Guarded contacts -/

/-- Every statement of the contacts is run on a connection that is open, or that has just been
    opened. -/
def Guarded (contacts : List Contact) : Prop :=
  ∀ earlier before request later, contacts = earlier ++ .run before request :: later →
    before = .opened ∨ ∃ earliest, earlier = earliest ++ [.connect .closed (.ok ())]

theorem Guarded.nil : Guarded [] := by
  intro earlier before request later h
  simp at h

theorem Guarded.append {log made : List Contact} (hlog : Guarded log) (hmade : Guarded made) :
    Guarded (log ++ made) := by
  intro earlier before request later h
  obtain ⟨middle, rfl, hmiddle⟩ | ⟨middle, rfl, hmiddle⟩ := List.append_eq_append_iff.mp h
  · -- the statement is one of those that were made last
    obtain hopened | ⟨earliest, rfl⟩ := hmade middle before request later hmiddle
    · exact .inl hopened
    · exact .inr ⟨log ++ earliest, (List.append_assoc ..).symm⟩
  · cases middle with
    | nil =>
      obtain hopened | ⟨earliest, hnil⟩ := hmade [] before request later hmiddle.symm
      · exact .inl hopened
      · simp at hnil
    | cons contact middle =>
      obtain ⟨rfl, -⟩ := List.cons.inj hmiddle
      exact hlog earlier before request middle rfl

section Served

variable {σ α : Type} {c : Connection σ} {s : σ}

theorem Served.guarded {request : Request} {outcome : Except Failure α} {made : List Contact}
    (h : Served c request s outcome made) : Guarded made := by
  intro earlier before request' later hmade
  cases h with
  | opened =>
    obtain ⟨rfl, hrun⟩ | ⟨_, rfl, hnil⟩ := List.cons_eq_append_iff.mp hmade
    · left
      simp_all
    · simp at hnil
  | connected =>
    obtain ⟨rfl, hrun⟩ | ⟨rest, rfl, hrest⟩ := List.cons_eq_append_iff.mp hmade
    · simp at hrun
    · obtain ⟨rfl, -⟩ | ⟨_, rfl, hnil⟩ := List.cons_eq_append_iff.mp hrest
      · exact .inr ⟨[], rfl⟩
      · simp at hnil
  | unreachable =>
    obtain ⟨rfl, hrun⟩ | ⟨_, rfl, hnil⟩ := List.cons_eq_append_iff.mp hmade
    · simp at hrun
    · simp at hnil
  | unusable => exact Guarded.nil earlier before request' later hmade

theorem Served.of_run_mem {request : Request} {outcome : Except Failure α} {made : List Contact}
    (h : Served c request s outcome made) {before : ConnectionState} {other : Request}
    (hrun : .run before other ∈ made) : other = request := by
  cases h <;> simp_all

/-- The statements that an operation runs are its own. -/
theorem Operation.Meets.of_run_mem {operation : Operation} {outcome : Except Failure α}
    {made : List Contact} (h : operation.Meets c s outcome made) {before : ConnectionState}
    {request : Request} (hrun : .run before request ∈ made) :
    operation.refusal? = none ∧ request = operation.request := by
  unfold Operation.Meets at h
  split at h
  · rw [h.2] at hrun
    simp at hrun
  · next hrefusal => exact ⟨hrefusal, h.of_run_mem hrun⟩

theorem Operation.Meets.guarded {operation : Operation} {outcome : Except Failure α}
    {made : List Contact} (h : operation.Meets c s outcome made) : Guarded made := by
  unfold Operation.Meets at h
  split at h
  · rw [h.2]
    exact Guarded.nil
  · exact h.guarded

end Served

/-! ## Runs -/

section Runs

variable {σ : Type} (c : Connection σ)

/-- The contacts that operations make with a connection. -/
def Operation.contacts (s : σ) (operations : List Operation) : List Contact :=
  (after c.watched (s, []) operations).2

/-- The statement that an operation runs is its own. -/
theorem Operation.request_of_run_mem {s : σ} {operation : Operation} {before : ConnectionState}
    {request : Request} (hrun : .run before request ∈ contacts c s [operation]) :
    request = operation.request := by
  obtain ⟨made, hmade, hmeets⟩ := operation.run_watched c s []
  have hcontacts : contacts c s [operation] = made := by
    show ((operation.perform c.watched).run (s, [])).2.2 = made
    rw [hmade]
    rfl
  rw [hcontacts] at hrun
  exact (hmeets.of_run_mem hrun).2

/-- A watched connection goes through the states of the connection, and its contacts are guarded. -/
theorem Operation.after_watched (operations : List Operation) (s : σ) (log : List Contact)
    (hlog : Guarded log) :
    (after c.watched (s, log) operations).1 = after c s operations ∧
      Guarded (after c.watched (s, log) operations).2 := by
  induction operations generalizing s log with
  | nil => exact ⟨rfl, hlog⟩
  | cons operation operations ih =>
    obtain ⟨made, hrun, hmeets⟩ := operation.run_watched c s log
    rw [after, after, hrun]
    exact ih _ _ (hlog.append hmeets.guarded)

/-- **No statement on a connection that is not open.** Take any run of operations on a connection
    that behaves in any way, and watch it, which changes nothing. One more operation

    - is refused, and makes no contact, where it is refused whatever the connection is like;
    - runs its one statement on an open connection, without opening it;
    - opens a closed connection once, and runs its one statement just when that succeeds;
    - and otherwise makes no contact and fails with the state that the connection is in.

    The contacts before it are kept, and all of them together are guarded. -/
theorem contacts_of_run (s : σ) (earlier : List Operation) (operation : Operation) :
    ∃ made,
      Operation.after c.watched (s, []) (earlier ++ [operation]) =
        (Operation.after c s (earlier ++ [operation]), Operation.contacts c s earlier ++ made) ∧
      operation.Meets c (Operation.after c s earlier)
        ((operation.perform c).run (Operation.after c s earlier)).1 made ∧
      Guarded (Operation.contacts c s (earlier ++ [operation])) := by
  obtain ⟨hstate, -⟩ := Operation.after_watched c earlier s [] .nil
  have hguarded := (Operation.after_watched c (earlier ++ [operation]) s [] .nil).2
  unfold Operation.contacts
  rcases hfound : Operation.after c.watched (s, []) earlier with ⟨found, log⟩
  obtain ⟨made, hrun, hmeets⟩ := operation.run_watched c found log
  obtain rfl : found = Operation.after c s earlier := by rw [← hstate, hfound]
  refine ⟨made, ?_, hmeets, hguarded⟩
  rw [Operation.after_append, Operation.after_append, hfound]
  show ((operation.perform c.watched).run _).2 = _
  rw [hrun]
  rfl

end Runs

end RecordSql
