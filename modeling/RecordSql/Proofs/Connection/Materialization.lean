import RecordSql.Proofs.Connection.Exchange

/-!
# Records from rows

An operation that reads makes records of the rows of its result: of every row in turn, or of the
only row. Which rows there are is all that the outcome depends on.

* `Row.take_eq_ok_iff`, `Row.take_eq_error_iff`: a slot takes the first column of its name.
* `Row.picks_pick`: slots are taken in turn until one of them takes nothing.
* `records_of_rows`: the outcome of every operation that reads, by the rows of its result.
-/

namespace RecordSql

/-! ## Columns of rows -/

/-- What a slot makes of a value. -/
def Slot.accept (slot : Slot) (v : Value) : Except ConversionError Value :=
  if slot.nullable then
    (v.convertNullable slot.target).map fun x => (x.map slot.target.toValue).getD .null
  else (v.convert slot.target).map slot.target.toValue

namespace Row

/-- The first column of the row that has the name, in any case of its letters, has the value. -/
def Holds (r : Row) (column : String) (v : Value) : Prop :=
  ∃ before name after, r.columns = before ++ (name, v) :: after ∧
    Text.equalFold name column = true ∧ ∀ c ∈ before, Text.equalFold c.1 column = false

/-- No column of the row has the name, in any case of its letters. -/
def Lacks (r : Row) (column : String) : Prop :=
  ∀ c ∈ r.columns, Text.equalFold c.1 column = false

/-- Why a slot takes nothing from a row. -/
inductive Refuses (r : Row) (slot : Slot) : String → Prop
  | missing : r.Lacks slot.column → Refuses r slot "no such column"
  | unfit {v : Value} {e : ConversionError} : r.Holds slot.column v → slot.accept v = .error e →
      Refuses r slot e.message

/-- A slot takes this from a row: what it makes of the first column of its name. -/
def Gives (r : Row) (slot : Slot) (x : Value) : Prop :=
  ∃ v, r.Holds slot.column v ∧ slot.accept v = .ok x

variable {r : Row} {slot : Slot}

theorem get?_eq_some_iff {column : String} {v : Value} :
    r.get? column = some v ↔ r.Holds column v := by
  simp only [get?, Option.map_eq_some_iff, List.find?_eq_some_iff_append, Holds,
    Bool.not_eq_true']
  constructor
  · rintro ⟨⟨name, _⟩, ⟨hname, before, after, hcolumns, hbefore⟩, rfl⟩
    exact ⟨before, name, after, hcolumns, hname, hbefore⟩
  · rintro ⟨before, name, after, hcolumns, hname, hbefore⟩
    exact ⟨(name, v), ⟨hname, before, after, hcolumns, hbefore⟩, rfl⟩

theorem get?_eq_none_iff {column : String} : r.get? column = none ↔ r.Lacks column := by
  simp [get?, Lacks]

/-- A slot takes what it makes of the value under its name, and blames the column otherwise. -/
theorem take_eq (r : Row) (slot : Slot) :
    r.take slot =
      match r.get? slot.column with
      | some v => (slot.accept v).mapError fun e => .decode slot.column e.message
      | none => .error (.decode slot.column "no such column") := by
  unfold take decode decodeNullable value Slot.accept
  cases r.get? slot.column with
  | none => split <;> rfl
  | some v => split <;> exact map_mapError ..

theorem take_eq_ok_iff {x : Value} : r.take slot = .ok x ↔ r.Gives slot x := by
  rw [take_eq, Gives]
  simp only [← get?_eq_some_iff]
  cases r.get? slot.column with
  | none => simp
  | some v => simp [mapError_eq_ok_iff]

theorem take_eq_error_iff {e : Error} :
    r.take slot = .error e ↔
      ∃ message, r.Refuses slot message ∧ .decode slot.column message = e := by
  rw [take_eq]
  constructor
  · intro h
    cases hget : r.get? slot.column with
    | none =>
      rw [hget] at h
      exact ⟨_, .missing (get?_eq_none_iff.mp hget), Except.error.inj h⟩
    | some v =>
      rw [hget] at h
      obtain ⟨cause, hcause, rfl⟩ := mapError_eq_error_iff.mp h
      exact ⟨_, .unfit (get?_eq_some_iff.mp hget) hcause, rfl⟩
  · rintro ⟨message, hmissing | ⟨hholds, hcause⟩, rfl⟩
    · rw [get?_eq_none_iff.mpr hmissing]
    · rw [get?_eq_some_iff.mpr hholds]
      exact mapError_eq_error_iff.mpr ⟨_, hcause, rfl⟩

/-- What becomes of a row if slots take from it in turn. -/
inductive Picks (r : Row) (slots : List Slot) : Except Error Row → Prop
  | taken {columns : List (String × Value)} :
      List.Forall₂ (fun slot c => c.1 = slot.column ∧ r.Gives slot c.2) slots columns →
      Picks r slots (.ok ⟨columns⟩)
  /-- The first slot that takes nothing is blamed. -/
  | refused {before : List Slot} {slot : Slot} {after : List Slot} {message : String} :
      slots = before ++ slot :: after → (∀ s ∈ before, ∃ x, r.Gives s x) →
      r.Refuses slot message → Picks r slots (.error (.decode slot.column message))

theorem picks_pick (r : Row) (slots : List Slot) : r.Picks slots (r.pick slots) := by
  have hpick : r.pick slots =
      (slots.mapM fun slot => (r.take slot).map (slot.column, ·)).map Row.mk := rfl
  rw [hpick]
  cases h : slots.mapM fun slot => (r.take slot).map (slot.column, ·) with
  | ok columns =>
    refine .taken ((mapM_eq_ok_iff.mp h).imp fun slot c htake => ?_)
    obtain ⟨x, hx, rfl⟩ := map_eq_ok_iff.mp htake
    exact ⟨rfl, take_eq_ok_iff.mp hx⟩
  | error e =>
    obtain ⟨before, slot, after, hslots, hbefore, htake⟩ := mapM_eq_error_iff.mp h
    obtain ⟨message, hrefuses, rfl⟩ := take_eq_error_iff.mp (map_eq_error_iff.mp htake)
    refine .refused hslots (fun s hs => ?_) hrefuses
    obtain ⟨c, hc⟩ := hbefore s hs
    obtain ⟨x, hx, -⟩ := map_eq_ok_iff.mp hc
    exact ⟨x, take_eq_ok_iff.mp hx⟩

example : (Row.mk [("ID", .int 1), ("id", .int 2)]).pick [⟨"Id", .int64, false⟩] =
    .ok ⟨[("Id", .int 1)]⟩ := by decide

end Row

/-! ## Records of a result -/

namespace RecordType

variable {α : Type}

/-- What becomes of the rows of a result if a record is made of every row. -/
inductive MakesAll (t : RecordType α) (rows : List Row) : Except Failure (List α) → Prop
  /-- There is one record for each row, in the order of the rows. -/
  | made {records : List α} :
      List.Forall₂ (fun row record => t.ofRow row = .ok record) rows records →
      MakesAll t rows (.ok records)
  /-- The first row that no record can be made of is the reason that there are none. -/
  | refused {before : List Row} {row : Row} {after : List Row} {e : Error} :
      rows = before ++ row :: after → (∀ r ∈ before, ∃ record, t.ofRow r = .ok record) →
      t.ofRow row = .error e → MakesAll t rows (.error (.error e))

/-- What becomes of the rows of a result if a record is made of the only row. -/
inductive MakesOne (t : RecordType α) : List Row → Except Failure (Option α) → Prop
  | nothing : MakesOne t [] (.ok none)
  | made {row : Row} {record : α} : t.ofRow row = .ok record → MakesOne t [row] (.ok (some record))
  | refused {row : Row} {e : Error} : t.ofRow row = .error e → MakesOne t [row] (.error (.error e))
  /-- Several rows are too many, whatever they hold. -/
  | ambiguous {rows : List Row} : 2 ≤ rows.length → MakesOne t rows
      (.error (.error (.invalidOperation
        ("Sequence contains more than one element (" ++ toString rows.length ++ " rows)"))))

variable (t : RecordType α)

theorem makesAll_mapM (rows : List Row) :
    t.MakesAll rows ((rows.mapM t.ofRow).mapError .error) := by
  cases h : rows.mapM t.ofRow with
  | ok records => exact .made (mapM_eq_ok_iff.mp h)
  | error e =>
    obtain ⟨before, row, after, hrows, hbefore, hrow⟩ := mapM_eq_error_iff.mp h
    exact .refused hrows hbefore hrow

theorem makesOne_ofRows (rows : List Row) : t.MakesOne rows ((t.ofRows rows).mapError .error) := by
  match rows with
  | [] => exact .nothing
  | [row] =>
    show t.MakesOne [row] (((t.ofRow row).map some).mapError .error)
    cases h : t.ofRow row with
    | ok record => exact .made h
    | error e => exact .refused h
  | first :: second :: rest => exact .ambiguous (by simp)

end RecordType

/-! ## Operations that read -/

section Operations

variable {σ α : Type} {c : Connection σ} {before opened after : σ}

/-- The operations that give a record for each row, with the statements that they run. -/
inductive Session.Lists (s : Session σ) (t : RecordType α) : Statement → Action σ (List α) → Prop
  | all : Lists s t (s.compiler.select t.schema.descriptor) (s.getAll t)
  | literals (filters : Filters) :
      Lists s t (s.compiler.selectLiterals t.schema.descriptor filters) (s.getLiterals t filters)
  | values (parameters : Parameters) :
      Lists s t (s.compiler.selectWhere t.schema.descriptor parameters) (s.getWhere t parameters)

/-- The operations that give the record of the only row, with the statements that they run. -/
inductive Session.Finds (s : Session σ) (t : RecordType α) :
    Statement → Action σ (Option α) → Prop
  | single (parameters : Parameters) :
      Finds s t (s.compiler.selectWhere t.schema.descriptor parameters) (s.getSingle t parameters)
  | inserted (record : α) {identity : Option String} : s.compiler.readsBack identity = true →
      Finds s t (t.insertStatement s.compiler record identity) (s.insert t record identity)

theorem Connection.run_ensureOpen_bind (hopen : c.ensureOpen.run before = (.ok (), opened))
    {β : Type} (a : Action σ β) : (c.ensureOpen >>= fun _ => a).run before = a.run opened := by
  rw [Action.run_bind, hopen]

/-- What is concluded from the rows that a query gives, once the connection is open. -/
theorem Command.run_query_bind_ofExcept {β : Type} {statement : Statement} {rows : List Row}
    (hopen : c.ensureOpen.run before = (.ok (), opened))
    (hrows : (c.query statement).run opened = (.ok rows, after))
    (f : List Row → Except Error β) :
    (Command.query { statement } c >>= fun rows => Action.ofExcept (f rows)).run before =
      ((f rows).mapError .error, after) := by
  have hquery : (Command.query { statement } c).run before = (.ok rows, after) :=
    (Connection.run_ensureOpen_bind hopen (c.query statement)).trans hrows
  rw [Action.run_bind_ofExcept, hquery]
  rfl

end Operations

/-- **Records of rows.** Whatever rows a query gives on the connection that has been opened, the
    operation that runs it

    - gives one record for each row in order, or fails as the first row that makes none, if it gives
      all records, those with literals or those with values in their fields;
    - gives nothing for no row, what becomes of the only row, or counts the rows if there are
      several, if it gives a single record or reads an inserted one back.

    An insertion that reads nothing back gives nothing, however many rows it changes. In all cases
    the connection is left as the statement left it. Where records are made by slots, the first slot
    that takes nothing from a row is blamed, by the name of its column. -/
theorem records_of_rows {σ α : Type} (s : Session σ) (t : RecordType α) {before opened : σ}
    (hopen : s.connection.ensureOpen.run before = (.ok (), opened)) :
    (∀ {statement rows after}, (s.connection.query statement).run opened = (.ok rows, after) →
      (∀ operation, s.Lists t statement operation →
        ∃ outcome, operation.run before = (outcome, after) ∧ t.MakesAll rows outcome) ∧
      (∀ operation, s.Finds t statement operation →
        ∃ outcome, operation.run before = (outcome, after) ∧ t.MakesOne rows outcome)) ∧
    (∀ record {identity count after}, s.compiler.readsBack identity = false →
      (s.connection.execute (t.insertStatement s.compiler record identity)).run opened =
        (.ok count, after) →
      (s.insert t record identity).run before = (.ok none, after)) ∧
    ∀ (row : Row) (slots : List Slot), row.Picks slots (row.pick slots) := by
  refine ⟨fun hrows => ⟨fun operation hlists => ?_, fun operation hfinds => ?_⟩,
    fun record identity count after hback hexecute => ?_, Row.picks_pick⟩
  · refine ⟨_, ?_, t.makesAll_mapM _⟩
    cases hlists with
    | all | literals _ | values _ => exact Command.run_query_bind_ofExcept hopen hrows _
  · refine ⟨_, ?_, t.makesOne_ofRows _⟩
    cases hfinds with
    | single _ =>
      rw [Session.getSingle, Session.fetchSingle_eq]
      exact Command.run_query_bind_ofExcept hopen hrows _
    | inserted record hback =>
      rw [Session.insert, if_pos hback, Session.fetchSingle_eq]
      exact Command.run_query_bind_ofExcept hopen hrows _
  · have hrun : (Command.execute { statement := t.insertStatement s.compiler record identity }
        s.connection).run before = (.ok count, after) :=
      (Connection.run_ensureOpen_bind hopen _).trans hexecute
    rw [Session.insert, if_neg (by simp [hback]), Action.run_bind, hrun]
    rfl

/-- Records that are made by slots for a number and for a text that may be missing its value. -/
def RecordType.notes : RecordType Row where
  schema := { name := "Note" }
  values := Row.columns
  ofRow row := row.pick [⟨"Id", .int64, false⟩, ⟨"Text", .text, true⟩]

/-- Two rows, of which the second lacks a column, on a connection that is still closed; and the row
    of a new record, which is read back. -/
theorem records_of_rows_notes :
    let c := Recorded.connection "sqlx::any::AnyConnection" (.ok .opened)
    let s := Session.withDialect c .default
    let t := RecordType.notes
    let rows : List Row := [⟨[("ID", .int 1), ("id", .int 2), ("text", .null)]⟩, ⟨[("Id", .int 3)]⟩]
    let statement := s.compiler.select t.schema.descriptor
    let insertion := t.insertStatement s.compiler ⟨[]⟩ none
    let opened : Recorded := { state := .opened, opened := 1, rows }
    let after := { opened with requests := [.query statement] }
    let s' := Session.withDialect c .msSql
    let rows' : List Row := [⟨[("Id", .int 4), ("Text", .text "new")]⟩]
    let insertion' := t.insertStatement s'.compiler ⟨[]⟩ (some "Id")
    let opened' : Recorded := { state := .opened, opened := 1, rows := rows' }
    let after' := { opened' with requests := [.query insertion'] }
    c.ensureOpen.run { rows } = (.ok (), opened) ∧
      (c.query statement).run opened = (.ok rows, after) ∧
      (∃ outcome, (s.getAll t).run { rows } = (outcome, after) ∧ t.MakesAll rows outcome) ∧
      (∃ outcome, (s.getSingle t .empty).run { rows } = (outcome, after) ∧
        t.MakesOne rows outcome) ∧
      s.compiler.readsBack none = false ∧
      (s.insert t ⟨[]⟩ none).run { rows } =
        (.ok none, { opened with requests := [.execute insertion] }) ∧
      c.ensureOpen.run { rows := rows' } = (.ok (), opened') ∧
      (c.query insertion').run opened' = (.ok rows', after') ∧
      s'.compiler.readsBack (some "Id") = true ∧
      ∃ outcome, (s'.insert t ⟨[]⟩ (some "Id")).run { rows := rows' } = (outcome, after') ∧
        t.MakesOne rows' outcome := by
  intro c s t rows statement insertion opened after s' rows' insertion' opened' after'
  have hopen : c.ensureOpen.run { rows } = (.ok (), opened) := rfl
  have hrows : (c.query statement).run opened = (.ok rows, after) := rfl
  have hopen' : c.ensureOpen.run { rows := rows' } = (.ok (), opened') := rfl
  have hrows' : (c.query insertion').run opened' = (.ok rows', after') := rfl
  have hback : s'.compiler.readsBack (some "Id") = true := rfl
  obtain ⟨hread, hinsert, -⟩ := records_of_rows s t hopen
  obtain ⟨hread', -, -⟩ := records_of_rows s' t hopen'
  exact ⟨hopen, hrows, (hread hrows).1 _ .all, (hread hrows).2 _ (.single .empty), rfl,
    hinsert ⟨[]⟩ rfl rfl, hopen', hrows', hback, (hread' hrows').2 _ (.inserted ⟨[]⟩ hback)⟩

end RecordSql
