import RecordSql.Connection.Command
import RecordSql.Database.Link
import RecordSql.Database.Scripted

/-!
# States of links

Whether the state that a link shows is that of its handle. Two steps can leave it wrong: a handle
that the database fails to close is given up while the state stays open, and a link that holds a
handle shows that it is closed once the database is reached again in vain. No other step can.

* `run_connect`, `run_close`, `run_send`: what each operation of a link does.
* `truthful_perform_iff`: a step from a truthful link leaves it truthful unless it slips.
* `truthful_run`: a run is truthful throughout just if no step of it slips.
-/

namespace RecordSql

variable {δ η α : Type}

/-! ## Calls -/

namespace Call

/-- Makes a call and gives its outcome and the database after it. -/
def run (c : Call δ α) (database : δ) : Except String α × δ :=
  StateT.run (ExceptT.run c) database

/-- The call has no result. -/
def Fails (c : Call δ α) (database : δ) : Prop :=
  ∃ message, (c.run database).1 = .error message

end Call

namespace Link

/-! ## Operations -/

theorem run_call (c : Call δ α) (l : Link δ η) :
    (call c : Action (Link δ η) _).run l =
      (.ok (c.run l.database).1, { l with database := (c.run l.database).2 }) := rfl

theorem run_connect (db : Database δ η) (url : String) (l : Link δ η) :
    (connect db url).run l =
      match (db.connect url).run l.database with
      | (.ok handle, database) => (.ok (), ⟨some handle, .opened, database⟩)
      | (.error message, database) =>
        (.error (.error (.connection message)), ⟨l.handle, .closed, database⟩) := by
  rw [connect, Action.run_modify_bind, Action.run_bind, run_call]
  rcases (db.connect url).run l.database with ⟨message | handle, database⟩ <;> rfl

theorem run_close (db : Database δ η) (l : Link δ η) :
    (close db).run l =
      match l.handle with
      | none => (.ok (), { l with state := .closed })
      | some handle =>
        match (db.close handle).run l.database with
        | (.ok (), database) => (.ok (), ⟨none, .closed, database⟩)
        | (.error message, database) =>
          (.error (.error (.connection message)), ⟨none, l.state, database⟩) := by
  obtain ⟨handle, state, database⟩ := l
  rw [close, Action.run_get_bind]
  cases handle with
  | none => rfl
  | some handle =>
    dsimp only
    rw [Action.run_modify_bind, Action.run_bind, run_call]
    dsimp only
    rcases (db.close handle).run database with ⟨message | ⟨⟩, database'⟩ <;> rfl

/-- A statement is sent on the handle, and changes the database alone. -/
theorem run_send (url : String) (s : Statement) (run : η → String → List Bound → Call δ α)
    (l : Link δ η) :
    (send url s run).run l =
      match s.positional? (markerStyle url), l.handle with
      | none, _ => (.error .overlap, l)
      | some _, none => (.error (.error (.invalidState l.state)), l)
      | some p, some handle =>
        match (run handle p.sql (p.values.map Value.bound)).run l.database with
        | (.ok x, database) => (.ok x, { l with database })
        | (.error message, database) =>
          (.error (.error (.database message)), { l with database }) := by
  obtain ⟨handle, state, database⟩ := l
  rw [send]
  cases s.positional? (markerStyle url) with
  | none => rfl
  | some p =>
    dsimp only
    rw [Action.run_get_bind]
    cases handle with
    | none => rfl
    | some handle =>
      dsimp only
      rw [Action.run_bind, run_call]
      dsimp only
      rcases (run handle p.sql (p.values.map Value.bound)).run database with
        ⟨message | x, database'⟩ <;> rfl

/-- What is sent leaves the handle and the state. -/
theorem send_keeps (url : String) (s : Statement) (run : η → String → List Bound → Call δ α)
    (l : Link δ η) :
    ((send url s run).run l).2.handle = l.handle ∧ ((send url s run).run l).2.state = l.state := by
  obtain ⟨handle, state, database⟩ := l
  rw [run_send]
  cases s.positional? (markerStyle url) with
  | none => exact ⟨rfl, rfl⟩
  | some p =>
    cases handle with
    | none => exact ⟨rfl, rfl⟩
    | some handle =>
      dsimp only
      rcases (run handle p.sql (p.values.map Value.bound)).run database with
        ⟨message | x, database'⟩ <;> exact ⟨rfl, rfl⟩

/-! ## Steps -/

/-- Something that is done with a link. -/
inductive Step
  /-- The link is opened, whatever its state is. -/
  | connect
  /-- The link is opened if it is closed. -/
  | ensureOpen
  | close
  | execute (s : Statement)
  | query (s : Statement)

/-- The link shows that it is open if it holds a handle, and that it is closed if it holds none. -/
def Truthful (l : Link δ η) : Prop :=
  l.state = if l.handle.isSome then .opened else .closed

variable (db : Database δ η) (url : String)

namespace Step

/-- Does a step; what it gives is left out. -/
def perform : Step → Action (Link δ η) Unit
  | connect => Link.connect db url
  | ensureOpen => (connection db url).ensureOpen
  | close => Link.close db
  | execute s => do let _ ← (connection db url).execute s
  | query s => do let _ ← (connection db url).query s

/-- The steps that leave the wrong state: a handle is not closed by the database, or a link that
    holds a handle does not reach the database again. -/
def Slips (l : Link δ η) : Step → Prop
  | close => ∃ handle, l.handle = some handle ∧ (db.close handle).Fails l.database
  | connect => l.handle.isSome = true ∧ (db.connect url).Fails l.database
  | _ => False

end Step

theorem truthful_iff {handle : Option η} {state : ConnectionState} {database : δ} :
    Truthful ⟨handle, state, database⟩ ↔
      state = if handle.isSome then .opened else .closed := Iff.rfl

theorem truthful_connect_iff (l : Link δ η) :
    Truthful ((connect db url).run l).2 ↔ ¬ Step.Slips db url l .connect := by
  rw [run_connect, Step.Slips, Call.Fails]
  rcases (db.connect url).run l.database with ⟨message | handle, database⟩
  · cases h : l.handle <;> simp [truthful_iff]
  · simp [truthful_iff]

theorem truthful_close_iff {l : Link δ η} (hl : Truthful l) :
    Truthful ((close db).run l).2 ↔ ¬ Step.Slips db url l .close := by
  obtain ⟨handle, state, database⟩ := l
  rw [truthful_iff] at hl
  rw [run_close, Step.Slips]
  unfold Call.Fails
  cases handle with
  | none => simp [truthful_iff]
  | some handle =>
    have hstate : state = .opened := by simpa using hl
    rcases hclose : (db.close handle).run database with ⟨message | ⟨⟩, database'⟩
    · simp [truthful_iff, hstate, hclose]
    · simp [truthful_iff, hclose]

theorem truthful_send {l : Link δ η} (hl : Truthful l) (s : Statement)
    (run : η → String → List Bound → Call δ α) : Truthful ((send url s run).run l).2 := by
  obtain ⟨hhandle, hstate⟩ := send_keeps url s run l
  rw [Truthful, hhandle, hstate]
  exact hl

/-- **One step.** A truthful link is truthful after a step just if the step does not slip. -/
theorem truthful_perform_iff {l : Link δ η} (hl : Truthful l) (step : Step) :
    Truthful ((step.perform db url).run l).2 ↔ ¬ step.Slips db url l := by
  cases step with
  | connect => exact truthful_connect_iff db url l
  | ensureOpen =>
    refine iff_of_true ?_ id
    rw [Step.perform, Connection.run_ensureOpen]
    cases hstate : (connection db url).state l with
    | closed =>
      have hnone : l.handle = none := by
        have : l.state = .closed := hstate
        rw [Truthful, this] at hl
        cases hhandle : l.handle <;> simp_all
      refine (truthful_connect_iff db url l).mpr ?_
      rintro ⟨hsome, -⟩
      simp [hnone] at hsome
    | _ => exact hl
  | close => exact truthful_close_iff db url hl
  | execute s =>
    refine iff_of_true ?_ id
    rw [Step.perform, Action.run_bind_pure]
    exact truthful_send url hl s db.execute
  | query s =>
    refine iff_of_true ?_ id
    rw [Step.perform, Action.run_bind_pure, connection, Action.run_bind_pure]
    exact truthful_send url hl s db.query

/-! ## Runs -/

/-- The link after steps, each of which is done whether or not those before it have failed. -/
def after (l : Link δ η) : List Step → Link δ η
  | [] => l
  | step :: rest => after ((step.perform db url).run l).2 rest

/-- The run is truthful before its first step and after every one. -/
def TruthfulThroughout (l : Link δ η) (steps : List Step) : Prop :=
  ∀ earlier, earlier <+: steps → Truthful (after db url l earlier)

/-- No step of the run slips. -/
def NeverSlips (l : Link δ η) (steps : List Step) : Prop :=
  ∀ earlier step, earlier ++ [step] <+: steps → ¬ step.Slips db url (after db url l earlier)

theorem truthfulThroughout_cons {l : Link δ η} {step : Step} {steps : List Step} :
    TruthfulThroughout db url l (step :: steps) ↔
      Truthful l ∧ TruthfulThroughout db url ((step.perform db url).run l).2 steps := by
  constructor
  · intro h
    refine ⟨h [] List.nil_prefix, fun earlier hearlier => ?_⟩
    exact h (step :: earlier) (List.cons_prefix_cons.mpr ⟨rfl, hearlier⟩)
  · rintro ⟨hl, h⟩ earlier hearlier
    obtain rfl | ⟨rest, rfl, hrest⟩ := List.prefix_cons_iff.mp hearlier
    · exact hl
    · exact h rest hrest

theorem neverSlips_cons {l : Link δ η} {step : Step} {steps : List Step} :
    NeverSlips db url l (step :: steps) ↔
      ¬ step.Slips db url l ∧ NeverSlips db url ((step.perform db url).run l).2 steps := by
  constructor
  · intro h
    refine ⟨h [] step (List.cons_prefix_cons.mpr ⟨rfl, List.nil_prefix⟩), ?_⟩
    intro earlier next hnext
    exact h (step :: earlier) next (List.cons_prefix_cons.mpr ⟨rfl, hnext⟩)
  · rintro ⟨hstep, h⟩ earlier next hnext
    cases earlier with
    | nil =>
      obtain ⟨rfl, -⟩ := List.cons_prefix_cons.mp hnext
      exact hstep
    | cons first earlier =>
      obtain ⟨rfl, hrest⟩ := List.cons_prefix_cons.mp hnext
      exact h earlier next hrest

theorem truthfulThroughout_iff {l : Link δ η} (hl : Truthful l) (steps : List Step) :
    TruthfulThroughout db url l steps ↔ NeverSlips db url l steps := by
  induction steps generalizing l with
  | nil =>
    refine iff_of_true ?_ ?_
    · intro earlier hearlier
      rw [List.prefix_nil.mp hearlier]
      exact hl
    · intro earlier step hstep
      simp at hstep
  | cons step steps ih =>
    rw [truthfulThroughout_cons, neverSlips_cons]
    have hstep := truthful_perform_iff db url hl step
    constructor
    · rintro ⟨-, hrest⟩
      have hafter := hrest [] List.nil_prefix
      exact ⟨hstep.mp hafter, (ih hafter).mp hrest⟩
    · rintro ⟨hslips, hrest⟩
      exact ⟨hl, (ih (hstep.mpr hslips)).mpr hrest⟩

/-! ## Commands -/

/-- The link is open or closed as far as can be seen. -/
def Settled (l : Link δ η) : Prop :=
  l.state = .opened ∨ l.state = .closed

theorem settled_perform {l : Link δ η} (hl : Settled l) (step : Step) :
    Settled ((step.perform db url).run l).2 := by
  have hconnect : Settled ((connect db url).run l).2 := by
    rw [run_connect]
    rcases (db.connect url).run l.database with ⟨message | handle, database⟩
    · exact .inr rfl
    · exact .inl rfl
  have hsend {β : Type} (s : Statement) (run : η → String → List Bound → Call δ β) :
      Settled ((send url s run).run l).2 := by
    rw [Settled, (send_keeps url s run l).2]
    exact hl
  cases step with
  | connect => exact hconnect
  | ensureOpen =>
    rw [Step.perform, Connection.run_ensureOpen]
    cases (connection db url).state l with
    | closed => exact hconnect
    | _ => exact hl
  | close =>
    rw [Step.perform, run_close]
    split
    · exact .inr rfl
    · split
      · exact .inr rfl
      · exact hl
  | execute s =>
    rw [Step.perform, Action.run_bind_pure]
    exact hsend s db.execute
  | query s =>
    rw [Step.perform, Action.run_bind_pure, connection, Action.run_bind_pure]
    exact hsend s db.query

theorem settled_after {l : Link δ η} (hl : Settled l) (steps : List Step) :
    Settled (after db url l steps) := by
  induction steps generalizing l with
  | nil => exact hl
  | cons step steps ih => exact ih (settled_perform db url hl step)

/-- The operation fails because of the state that the link is in. -/
def FailsForState (a : Action (Link δ η) α) (l : Link δ η) : Prop :=
  ∃ state, (a.run l).1 = .error (.error (.invalidState state))

theorem send_failsForState_iff (s : Statement) (run : η → String → List Bound → Call δ α)
    (l : Link δ η) :
    FailsForState (send url s run) l ↔
      l.handle = none ∧ (s.positional? (markerStyle url)).isSome = true := by
  unfold FailsForState
  rw [run_send]
  cases s.positional? (markerStyle url) with
  | none => simp
  | some p =>
    cases l.handle with
    | none => simp
    | some handle =>
      dsimp only
      rcases (run handle p.sql (p.values.map Value.bound)).run l.database with
        ⟨message | x, database⟩ <;> simp

/-- If a link is opened where it is closed, then only one that shows that it is open is without a
    handle. -/
theorem ensureOpen_failsForState_iff {l : Link δ η} (hl : Settled l) {a : Action (Link δ η) α}
    {sendable : Prop} (ha : ∀ l, FailsForState a l ↔ l.handle = none ∧ sendable) :
    FailsForState ((connection db url).ensureOpen >>= fun _ => a) l ↔
      l.state = .opened ∧ l.handle = none ∧ sendable := by
  obtain hopened | hclosed := hl
  · have hstate : (connection db url).state l = .opened := hopened
    rw [FailsForState, Action.run_bind, Connection.run_ensureOpen, hstate, ← ha l]
    simp [hopened, FailsForState]
  · have hstate : (connection db url).state l = .closed := hclosed
    refine iff_of_false ?_ (by simp [hclosed])
    have hconnect : (connection db url).connect = connect db url := rfl
    rw [FailsForState, Action.run_bind, Connection.run_ensureOpen, hstate, hconnect]
    dsimp only
    rw [run_connect]
    rcases (db.connect url).run l.database with ⟨message | handle, database⟩
    · simp
    · intro hfails
      exact absurd ((ha _).mp hfails).1 (by simp)

theorem execute_failsForState_iff {l : Link δ η} (hl : Settled l) (s : Statement) :
    FailsForState (Command.execute { statement := s } (connection db url)) l ↔
      l.state = .opened ∧ l.handle = none ∧ (s.positional? (markerStyle url)).isSome = true :=
  ensureOpen_failsForState_iff db url hl (send_failsForState_iff url s db.execute)

theorem query_failsForState_iff {l : Link δ η} (hl : Settled l) (s : Statement) :
    FailsForState (Command.query { statement := s } (connection db url)) l ↔
      l.state = .opened ∧ l.handle = none ∧ (s.positional? (markerStyle url)).isSome = true := by
  refine ensureOpen_failsForState_iff db url hl fun l => ?_
  rw [← send_failsForState_iff url s db.query l, FailsForState, FailsForState, connection,
    Action.run_bind_pure]
  cases ((send url s db.query).run l).1 <;> simp [Except.map]

/-- **When the state tells the truth.** Take any database and any run of steps from a new link. The
    link shows the truth before and after every step just if no step slips. It always shows that it
    is open or that it is closed; and a command, which opens the link where it is closed, fails for
    its state just if the link shows that it is open without a handle, and the statement can be
    sent. -/
theorem truthful_run (database : δ) (steps : List Step) :
    (TruthfulThroughout db url { database } steps ↔ NeverSlips db url { database } steps) ∧
      Settled (after db url { database } steps) ∧
      ∀ s : Statement,
        let l := after db url { database } steps
        let stale := l.state = .opened ∧ l.handle = none ∧
          (s.positional? (markerStyle url)).isSome = true
        (FailsForState (Command.execute { statement := s } (connection db url)) l ↔ stale) ∧
          (FailsForState (Command.query { statement := s } (connection db url)) l ↔ stale) := by
  have hnew : Truthful ({ database } : Link δ η) := rfl
  have hsettled : Settled (after db url { database } steps) := settled_after db url (.inr rfl) steps
  exact ⟨truthfulThroughout_iff db url hnew steps, hsettled, fun s =>
    ⟨execute_failsForState_iff db url hsettled s, query_failsForState_iff db url hsettled s⟩⟩

/-- A link whose handle the database does not close shows that it is open, so the next command is
    not preceded by an opening and fails for its state. A link that is not reached again shows that
    it is closed, and holds a handle. -/
theorem slips_scripted :
    let unclosed : Link Scripted Unit :=
      after Scripted.database "sqlite::memory:" { database := { closes := [.error "lost"] } }
        [.connect, .close]
    let unreached : Link Scripted Unit :=
      after Scripted.database "sqlite::memory:"
        { database := { connects := [.ok (), .error "lost"] } } [.connect, .connect]
    (unclosed.state = .opened ∧ unclosed.handle = none ∧
      ((Command.execute { statement := { sql := "SELECT 1" } }
        (connection Scripted.database "sqlite::memory:")).run unclosed).1 =
          .error (.error (.invalidState .opened))) ∧
      unreached.state = .closed ∧ unreached.handle = some () := by
  refine ⟨⟨rfl, rfl, ?_⟩, rfl, rfl⟩
  rfl

end Link

end RecordSql
