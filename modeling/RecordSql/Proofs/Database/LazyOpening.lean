import RecordSql.Proofs.Connection.Exchange
import RecordSql.Proofs.Database.Ledger

/-!
# Lazy opening

A link that is only used through operations, and closed, reaches its database when an operation
needs it and never else. What is said of the calls is said of the watched database; watching changes
neither an outcome nor the link.

* `mirrors_exchange`: the calls that one exchange makes.
* `mirrors_use`: one step of a run.
* `run_mirrors`: a run leaves a link that keeps track of its calls.
* `calls_of_run`: which calls each operation of a run makes, and what they mean for its outcome.
-/

namespace RecordSql

open Database Link WatchedLink

variable {δ η α β : Type}

/-! ## Exchanges -/

/-- The calls that an exchange about a statement makes after others, and what they mean for its
    outcome. -/
inductive Delivers (url : String) (s : Statement) (log : List Event) :
    Except Failure α → List Event → Prop
  /-- The statement is sent on the handle that is live. -/
  | live {number : Nat} {outcome : Except Failure α} : live log = some number →
      Delivers url s log outcome (sent url s number)
  /-- No handle is live, so the database is reached, and the statement is sent on the handle that it
      gives. -/
  | connected {outcome : Except Failure α} : Database.live log = none →
      Delivers url s log outcome (.connect url (.ok ()) :: sent url s log.length)
  /-- No handle is live and the database cannot be reached. Nothing is sent, and the reason is the
      outcome. -/
  | unreachable {message : String} : Database.live log = none →
      Delivers url s log (.error (.error (.connection message))) [.connect url (.error message)]

theorem Delivers.bind {url : String} {s : Statement} {log made : List Event}
    {outcome : Except Failure α} (h : Delivers url s log outcome made)
    (f : α → Except Failure β) : Delivers url s log (outcome.bind f) made := by
  cases h with
  | live hlive => exact .live hlive
  | connected hlive => exact .connected hlive
  | unreachable hlive => exact .unreachable hlive

section Exchange

variable (db : Database δ η) (url : String) {l : WatchedLink δ η}

theorem mirrors_ask (hl : l.Tracks) {number : Nat} (hlive : live l.calls = some number)
    (request : Request) :
    l.Mirrors (((connection db.watched url).ask request).run l)
      (((connection db url).ask request).run l.plain) (sent url request.statement number) := by
  cases request with
  | execute s =>
    have hsend := mirrors_send url hl hlive s db.execute
    have hask (δ' η' : Type) (db' : Database δ' η') : (connection db' url).ask (.execute s) =
        send url s db'.execute >>= fun count => pure (Answer.affected count) := rfl
    rw [hask, hask, Action.run_bind_pure, Action.run_bind_pure]
    exact hsend.conclude (Except.map Answer.affected)
  | query s =>
    have hsend := mirrors_send url hl hlive s db.query
    have hask (δ' η' : Type) (db' : Database δ' η') : (connection db' url).ask (.query s) =
        send url s db'.query >>= fun cells => pure (Answer.rows (cells.map Row.ofCells)) := by
      simp [Connection.ask, connection]
    rw [hask, hask, Action.run_bind_pure, Action.run_bind_pure]
    exact hsend.conclude (Except.map fun cells => Answer.rows (cells.map Row.ofCells))

/-- **One exchange.** The database is reached just if no handle is live, once, and the statement is
    sent once on the live handle, or not at all if the rewriting of its placeholders fails. -/
theorem mirrors_exchange (hl : l.Tracks) (request : Request) :
    ∃ made,
      l.Mirrors (((connection db.watched url).exchange request).run l)
        (((connection db url).exchange request).run l.plain) made ∧
      Delivers url request.statement l.calls
        (((connection db url).exchange request).run l.plain).1 made := by
  have hstate := hl.truthful
  cases hlive : live l.calls with
  | some number =>
    have hopened : l.state = .opened := by
      rw [hstate, if_pos]
      rw [← Option.isSome_map (f := Prod.snd), hl.live, hlive]
      rfl
    rw [Connection.run_exchange_of_opened _ hopened, Connection.run_exchange_of_opened _ hopened]
    exact ⟨_, mirrors_ask db url hl hlive request, .live hlive⟩
  | none =>
    have hclosed : l.state = .closed := by
      rw [hstate, if_neg]
      rw [← Option.isSome_map (f := Prod.snd), hl.live, hlive]
      simp
    rw [Connection.run_exchange_of_closed _ hclosed, Connection.run_exchange_of_closed _ hclosed]
    obtain ⟨message, hfailed, hconnect⟩ | ⟨hreached, hconnect⟩ := mirrors_connect db url hl hlive
    · have hfails : (((connection db url).connect >>= fun _ =>
          (connection db url).ask request).run l.plain).1 = .error (.error (.connection message)) :=
        congrArg Prod.fst (Action.run_bind_of_error (hconnect.outcome.trans hfailed) _)
      exact ⟨_, hconnect.bind_error hfailed _ _, hfails ▸ .unreachable hlive⟩
    · have hgiven : live (calls ((Link.connect db.watched url).run l).2) = some l.calls.length := by
        rw [hconnect.calls, live_concat]
        rfl
      have hask := mirrors_ask db url hconnect.tracks hgiven request
      exact ⟨_, hconnect.bind_ok hreached hask, .connected hlive⟩

/-- An exchange over a link that shows the truth does not fail for the link's state. -/
theorem exchange_ne_invalidState {l : Link δ η} (hl : l.Truthful) (request : Request)
    (state : ConnectionState) :
    (((connection db url).exchange request).run l).1 ≠ .error (.error (.invalidState state)) := by
  intro hfails
  have hsettled : l.Settled := by
    rw [Settled, show l.state = _ from hl]
    by_cases h : l.handle.isSome
    · rw [if_pos h]
      exact .inl rfl
    · rw [if_neg h]
      exact .inr rfl
  have hstale : ¬ (l.state = .opened ∧ l.handle = none) := by
    rintro ⟨hopened, hnone⟩
    rw [show l.state = _ from hl, hnone] at hopened
    cases hopened
  cases request with
  | execute s =>
    have h := (execute_failsForState_iff db url hsettled s).not.mpr fun h => hstale ⟨h.1, h.2.1⟩
    rw [← bind_pure ((connection db url).exchange (.execute s)), Connection.exchange_execute_bind,
      Action.run_bind_pure] at hfails
    exact h ⟨state, map_eq_error_iff.mp hfails⟩
  | query s =>
    have h := (query_failsForState_iff db url hsettled s).not.mpr fun h => hstale ⟨h.1, h.2.1⟩
    rw [← bind_pure ((connection db url).exchange (.query s)), Connection.exchange_query_bind,
      Action.run_bind_pure] at hfails
    exact h ⟨state, map_eq_error_iff.mp hfails⟩

end Exchange

/-! ## Uses of a link -/

/-- A use of a link that does not open it without need. -/
inductive Use : Type 1
  | operate (operation : Operation)
  | close

namespace Use

/-- Uses a link; what that gives is left out. -/
def perform (db : Database δ η) (url : String) : Use → Action (Link δ η) Unit
  | operate operation => operation.perform (connection db url)
  | close => Link.close db

/-- What the calls that a use makes after others have to do with its outcome. An operation that is
    refused makes none, and every other one those of one exchange. -/
def Meets (url : String) (log : List Event) (outcome : Except Failure Unit) (made : List Event) :
    Use → Prop
  | operate operation =>
    match operation.refusal? with
    | some e => outcome = .error (.error e) ∧ made = []
    | none => Delivers url operation.request.statement log outcome made
  | close => outcome = .ok () ∧ made = ((live log).map Event.close).toList

/-- A use can fail for a state only if it reads records whose type refuses a row so. -/
def RefusesRow (e : Error) : Use → Prop
  | operate operation => operation.RefusesRow e
  | close => False

variable (db : Database δ η) (url : String)

/-- A link after uses, each of which is done whether or not those before it have failed. -/
def after (l : Link δ η) : List Use → Link δ η
  | [] => l
  | use :: rest => after ((use.perform db url).run l).2 rest

theorem after_append (l : Link δ η) (earlier later : List Use) :
    after db url l (earlier ++ later) = after db url (after db url l earlier) later := by
  induction earlier generalizing l with
  | nil => rfl
  | cons use earlier ih => exact ih _

/-- Every close among the uses succeeds. -/
def Closes (l : Link δ η) : List Use → Prop
  | [] => True
  | use :: rest =>
    (use = close → ((use.perform db url).run l).1 = .ok ()) ∧
      Closes ((use.perform db url).run l).2 rest

theorem closes_append {l : Link δ η} {earlier later : List Use} :
    Closes db url l (earlier ++ later) ↔
      Closes db url l earlier ∧ Closes db url (after db url l earlier) later := by
  induction earlier generalizing l with
  | nil => simp [Closes, after]
  | cons use earlier ih =>
    rw [List.cons_append, Closes, Closes, ih, after, and_assoc]

end Use

section Runs

variable (db : Database δ η) (url : String)

/-- **One use.** A link that keeps track of its calls does so after a use, unless a close fails. -/
theorem mirrors_use {l : WatchedLink δ η} (hl : l.Tracks) (use : Use)
    (hclose : use = .close → ((use.perform db url).run l.plain).1 = .ok ()) :
    ∃ made,
      l.Mirrors ((use.perform db.watched url).run l) ((use.perform db url).run l.plain) made ∧
      use.Meets url l.calls ((use.perform db url).run l.plain).1 made ∧
      ∀ state, ((use.perform db url).run l.plain).1 = .error (.error (.invalidState state)) →
        use.RefusesRow (.invalidState state) := by
  cases use with
  | close =>
    have hok : ((Link.close db).run l.plain).1 = .ok () := hclose rfl
    refine ⟨_, mirrors_close db hl hok, ⟨hok, rfl⟩, fun state hstate => ?_⟩
    rw [Use.perform, hok] at hstate
    cases hstate
  | operate operation =>
    simp only [Use.Meets]
    cases hrefusal : operation.refusal? with
    | some e =>
      rw [Use.perform, Use.perform, operation.run_of_refusal _ hrefusal,
        operation.run_of_refusal _ hrefusal]
      refine ⟨[], ⟨rfl, rfl, (List.append_nil _).symm, hl⟩, ⟨rfl, rfl⟩, fun state hstate => ?_⟩
      obtain rfl : e = .invalidState state := by simpa using hstate
      exact absurd hrefusal (operation.refusal?_ne_invalidState state)
    | none =>
      obtain ⟨made, hmirrors, hdelivers⟩ := mirrors_exchange db url hl operation.request
      rw [Use.perform, Use.perform, operation.perform_eq _ hrefusal,
        operation.perform_eq _ hrefusal, Action.run_bind_ofExcept, Action.run_bind_ofExcept]
      refine ⟨made, hmirrors.conclude fun outcome => outcome.bind fun answer =>
        (operation.conclude answer).mapError .error, hdelivers.bind _, fun state hstate => ?_⟩
      have hnever := exchange_ne_invalidState db url (truthful_plain.mpr hl.truthful)
        operation.request state
      cases hanswer : (((connection db url).exchange operation.request).run l.plain).1 with
      | error e =>
        rw [hanswer] at hnever hstate
        obtain rfl : e = .error (.invalidState state) := Except.error.inj hstate
        exact absurd rfl hnever
      | ok answer =>
        rw [hanswer] at hstate
        obtain ⟨e, hconclude, he⟩ := mapError_eq_error_iff.mp hstate
        obtain rfl : e = .invalidState state := Failure.error.inj he
        exact Operation.refusesRow_of_conclude hconclude

/-- **A whole run.** A link that keeps track of its calls goes through the states of the link to the
    database itself, and keeps track of them throughout. -/
theorem run_mirrors {l : WatchedLink δ η} (hl : l.Tracks) {uses : List Use}
    (hcloses : Use.Closes db url l.plain uses) :
    Tracks (Use.after db.watched url l uses) ∧
      plain (Use.after db.watched url l uses) = Use.after db url l.plain uses := by
  induction uses generalizing l with
  | nil => exact ⟨hl, rfl⟩
  | cons use rest ih =>
    obtain ⟨hclose, hrest⟩ := hcloses
    obtain ⟨made, hmirrors, -⟩ := mirrors_use db url hl use hclose
    rw [hmirrors.link] at hrest
    rw [Use.after, Use.after, hmirrors.link]
    exact ih hmirrors.tracks hrest

/-- The new link to a watched database. -/
def WatchedLink.fresh (database : δ) : WatchedLink δ η :=
  { database := (database, []) }

theorem WatchedLink.tracks_fresh (database : δ) : Tracks (fresh database : WatchedLink δ η) :=
  ⟨rfl, rfl, .nil⟩

/-- The calls that uses of a new link make. -/
def Use.calls (database : δ) (uses : List Use) : List Event :=
  WatchedLink.calls (after db.watched url (fresh database) uses)

/-- **The database is reached when it is needed.** Take a new link to any database, and any run of
    operations and of closes that succeed, and watch the database, which does not change what the
    link goes through. Then one more use

    - is refused, and makes no call, where it is refused whatever the link is like;
    - sends its statement on the handle that is live, without reaching the database;
    - reaches the database once where no handle is live, and sends its statement just if that
      succeeds, the reason being the outcome otherwise;
    - closes the handle that is live, if it is a close.

    The statement is not sent where its placeholders cannot be rewritten. The calls before are kept,
    and all of them are in order: the database is only reached while no handle is live, and a
    statement is only sent on the handle that was given last and has not been closed since. No use
    fails for the state of the link, unless the records that it reads have a type that does so. -/
theorem calls_of_run (database : δ) (earlier : List Use) (use : Use)
    (hcloses : Use.Closes db url { database } (earlier ++ [use])) :
    let before : Link δ η := Use.after db url { database } earlier
    let outcome := ((use.perform db url).run before).1
    ∃ made,
      plain (Use.after db.watched url (fresh database) (earlier ++ [use])) =
        Use.after db url { database } (earlier ++ [use]) ∧
      Use.calls db url database (earlier ++ [use]) = Use.calls db url database earlier ++ made ∧
      use.Meets url (Use.calls db url database earlier) outcome made ∧
      Orderly (Use.calls db url database (earlier ++ [use])) ∧
      ∀ state, outcome = .error (.error (.invalidState state)) →
        use.RefusesRow (.invalidState state) := by
  intro before outcome
  have hwhole := run_mirrors db url (tracks_fresh database) hcloses
  obtain ⟨hearlier, hclose, -⟩ := (Use.closes_append db url).mp hcloses
  obtain ⟨htracks, hplain⟩ := run_mirrors db url (tracks_fresh database) hearlier
  have hbefore : plain (Use.after db.watched url (fresh database) earlier) = before := hplain
  obtain ⟨made, hmirrors, hmeets, hstate⟩ :=
    mirrors_use db url htracks use (by rw [hbefore]; exact hclose)
  rw [hbefore] at hmeets hstate
  refine ⟨made, hwhole.2, ?_, hmeets, hwhole.1.orderly, hstate⟩
  rw [Use.calls, Use.after_append]
  exact hmirrors.calls

end Runs

/-- A database that is reached in vain, fails a statement, is asked for one that cannot be
    rewritten, and is left twice, is reached anew for the next statement. -/
theorem calls_of_run_scripted :
    let database : Scripted := { connects := [.error "down"], executes := [.error "locked"] }
    let update : Use := .operate (.execute { statement := { sql := "UPDATE T SET Id=1" } })
    let overlapping : Use := .operate (.query
      { statement := { sql := "SELECT @a@b", bindings := [⟨"@a@b", .null⟩, ⟨"@b", .null⟩] } })
    let earlier := [update, update, overlapping, .close, .close]
    let calls := Use.calls Scripted.database "sqlite::memory:" database (earlier ++ [update])
    Use.Closes Scripted.database "sqlite::memory:" { database } (earlier ++ [update]) ∧
      calls = [.connect "sqlite::memory:" (.error "down"), .connect "sqlite::memory:" (.ok ()),
        .send 1 "UPDATE T SET Id=1" [], .close 1, .connect "sqlite::memory:" (.ok ()),
        .send 4 "UPDATE T SET Id=1" []] ∧
      Orderly calls := by
  intro database update overlapping earlier calls
  have hcloses : Use.Closes Scripted.database "sqlite::memory:" { database }
      (earlier ++ [update]) := by
    simp only [earlier, update, overlapping, List.cons_append, List.nil_append, Use.Closes]
    exact ⟨nofun, nofun, nofun, fun _ => rfl, fun _ => rfl, nofun, trivial⟩
  obtain ⟨made, -, -, -, horderly, -⟩ :=
    calls_of_run Scripted.database "sqlite::memory:" database earlier update hcloses
  exact ⟨hcloses, rfl, horderly⟩

end RecordSql
