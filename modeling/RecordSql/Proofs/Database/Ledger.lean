import Mathlib.Data.List.Basic
import RecordSql.Proofs.Database.LinkState

/-!
# Calls to a database

A watched database behaves as the database itself and keeps, in order, every call that is made to
it. Handles are told apart by when they were given, which the database itself need not be able to.

* `live`: the handle of the last connect that succeeded, unless it has been closed since.
* `mirrors_connect`, `mirrors_close`, `mirrors_send`: what is done with a link to the
  watched database is what is done with the link, and the calls that it makes.
-/

namespace RecordSql

variable {δ η α : Type}

namespace Database

/-! ## Calls in order -/

/-- A call that was made to a database. A handle is known by the number of calls that had been made
    when it was given. -/
inductive Event
  | connect (url : String) (outcome : Except String Unit)
  | close (handle : Nat)
  | send (handle : Nat) (sql : String) (values : List Bound)

/-- The handle that is live after a call, given the one before it and the number of the call. -/
def Event.next (e : Event) (number : Nat) (live : Option Nat) : Option Nat :=
  match e with
  | connect _ (.ok ()) => some number
  | close handle => live.filter (· ≠ handle)
  | _ => live

/-- The handle that is live after calls. -/
def live (log : List Event) : Option Nat :=
  log.zipIdx.foldl (fun live p => p.1.next p.2 live) none

theorem live_concat (log : List Event) (e : Event) :
    live (log ++ [e]) = e.next log.length (live log) := by
  rw [live, List.zipIdx_append, List.foldl_append, Nat.zero_add]
  rfl

/-- A call of a list with one more call at the end is that one or comes before it. -/
theorem concat_eq_append_cons_iff {log earlier later : List Event} {e x : Event} :
    log ++ [e] = earlier ++ x :: later ↔
      (log = earlier ∧ e = x ∧ later = []) ∨
        ∃ rest, later = rest ++ [e] ∧ log = earlier ++ x :: rest := by
  constructor
  · intro h
    obtain rfl | ⟨rest, y, rfl⟩ := later.eq_nil_or_concat'
    · obtain ⟨hlog, hx⟩ := List.append_inj' h rfl
      exact .inl ⟨hlog, List.singleton_inj.mp hx, rfl⟩
    · rw [← List.cons_append, ← List.append_assoc] at h
      obtain ⟨hlog, hy⟩ := List.append_inj' h rfl
      exact .inr ⟨rest, by rw [List.singleton_inj.mp hy], hlog⟩
  · rintro (⟨rfl, rfl, rfl⟩ | ⟨rest, rfl, rfl⟩)
    · rfl
    · simp

/-- The call is in order after earlier ones: a connect is made only if no handle is live, and a
    handle that is used is the live one. -/
def Event.Fits (earlier : List Event) : Event → Prop
  | connect _ _ => live earlier = none
  | close handle | send handle _ _ => live earlier = some handle

/-- Every call is in order after those before it. -/
def Orderly (log : List Event) : Prop :=
  ∀ earlier e later, log = earlier ++ e :: later → e.Fits earlier

theorem Orderly.nil : Orderly [] := by
  intro earlier e later h
  simp at h

theorem Orderly.concat {log : List Event} {e : Event} (hlog : Orderly log) (he : e.Fits log) :
    Orderly (log ++ [e]) := by
  intro earlier x later h
  obtain ⟨rfl, rfl, -⟩ | ⟨rest, -, rfl⟩ := concat_eq_append_cons_iff.mp h
  · exact he
  · exact hlog earlier x rest rfl

end Database

open Database

/-! ## Watched databases -/

/-- A call that is kept. -/
def Call.watch (c : Call δ α) (event : Event) : Call (δ × List Event) α :=
  ExceptT.mk fun p =>
    let (outcome, database) := c.run p.1
    (outcome, (database, p.2 ++ [event]))

/-- The database that keeps the calls to it and numbers its handles. -/
def Database.watched (db : Database δ η) : Database (δ × List Event) (η × Nat) where
  connect url := ExceptT.mk fun p =>
    let (outcome, database) := (db.connect url).run p.1
    (outcome.map (·, p.2.length), (database, p.2 ++ [.connect url (outcome.map fun _ => ())]))
  close handle := (db.close handle.1).watch (.close handle.2)
  execute handle sql values := (db.execute handle.1 sql values).watch (.send handle.2 sql values)
  query handle sql values := (db.query handle.1 sql values).watch (.send handle.2 sql values)

/-- A link to a watched database. -/
abbrev WatchedLink (δ η : Type) : Type :=
  Link (δ × List Event) (η × Nat)

namespace WatchedLink

open Link

/-- The link to the database itself. -/
def plain (l : WatchedLink δ η) : Link δ η :=
  ⟨l.handle.map Prod.fst, l.state, l.database.1⟩

theorem truthful_plain {l : WatchedLink δ η} : l.plain.Truthful ↔ l.Truthful := by
  rw [Truthful, Truthful, plain, Option.isSome_map]

/-- The calls that have been made. -/
def calls (l : WatchedLink δ η) : List Event :=
  l.database.2

/-- The link shows the truth, its handle is the one that is live after its calls, and these are in
    order. -/
structure Tracks (l : WatchedLink δ η) : Prop where
  truthful : l.Truthful
  live : l.handle.map Prod.snd = live l.calls
  orderly : Orderly l.calls

/-- What was done with a watched link, and what was done with the link to the database itself: the
    outcome and the link are the same, and the watched link has kept the calls that were made. -/
structure Mirrors (l : WatchedLink δ η) (watched : Except Failure α × WatchedLink δ η)
    (own : Except Failure α × Link δ η) (made : List Event) : Prop where
  outcome : own.1 = watched.1
  link : own.2 = watched.2.plain
  calls : watched.2.calls = l.calls ++ made
  tracks : watched.2.Tracks

/-! ## Operations of watched links -/

section Operations

variable {β : Type} {l : WatchedLink δ η}

/-- What is made of an outcome makes no calls. -/
theorem Mirrors.conclude {watched : Except Failure α × WatchedLink δ η}
    {own : Except Failure α × Link δ η} {made : List Event} (h : l.Mirrors watched own made)
    (f : Except Failure α → Except Failure β) :
    l.Mirrors (f watched.1, watched.2) (f own.1, own.2) made :=
  ⟨congrArg f h.outcome, h.link, h.calls, h.tracks⟩

/-- What follows an operation that fails makes no calls. -/
theorem Mirrors.bind_error {watched : Action (WatchedLink δ η) α} {own : Action (Link δ η) α}
    {made : List Event} (h : l.Mirrors (watched.run l) (own.run l.plain) made) {e : Failure}
    (he : (watched.run l).1 = .error e) (next : α → Action (WatchedLink δ η) β)
    (ownNext : α → Action (Link δ η) β) :
    l.Mirrors ((watched >>= next).run l) ((own >>= ownNext).run l.plain) made := by
  rw [Action.run_bind_of_error he, Action.run_bind_of_error (h.outcome.trans he)]
  exact ⟨rfl, h.link, h.calls, h.tracks⟩

/-- What follows an operation that succeeds makes its calls behind those of the operation. -/
theorem Mirrors.bind_ok {watched : Action (WatchedLink δ η) α} {own : Action (Link δ η) α}
    {made later : List Event} (h : l.Mirrors (watched.run l) (own.run l.plain) made) {x : α}
    (hx : (watched.run l).1 = .ok x) {next : α → Action (WatchedLink δ η) β}
    {ownNext : α → Action (Link δ η) β}
    (hnext : Mirrors (watched.run l).2 ((next x).run (watched.run l).2)
      ((ownNext x).run (plain (watched.run l).2)) later) :
    l.Mirrors ((watched >>= next).run l) ((own >>= ownNext).run l.plain) (made ++ later) := by
  rw [Action.run_bind_of_ok hx, Action.run_bind_of_ok (h.outcome.trans hx), h.link]
  refine ⟨hnext.outcome, hnext.link, ?_, hnext.tracks⟩
  rw [hnext.calls, h.calls, List.append_assoc]

/-- The call that sends a statement, if it can be sent. -/
def sent (url : String) (s : Statement) (number : Nat) : List Event :=
  match s.positional? (markerStyle url) with
  | none => []
  | some p => [.send number p.sql (p.values.map Value.bound)]

variable (db : Database δ η) (url : String)

theorem mirrors_connect (hl : l.Tracks) (hlive : live l.calls = none) :
    (∃ message, ((Link.connect db.watched url).run l).1 = .error (.error (.connection message)) ∧
        l.Mirrors ((Link.connect db.watched url).run l) ((Link.connect db url).run l.plain)
          [.connect url (.error message)]) ∨
      ((Link.connect db.watched url).run l).1 = .ok () ∧
        l.Mirrors ((Link.connect db.watched url).run l) ((Link.connect db url).run l.plain)
          [.connect url (.ok ())] := by
  obtain ⟨handle, state, database, log⟩ := l
  obtain rfl : handle = none := by
    have hhandle := hl.live
    rw [hlive] at hhandle
    exact Option.map_eq_none_iff.mp hhandle
  have horderly (outcome : Except String Unit) : Orderly (log ++ [.connect url outcome]) :=
    hl.orderly.concat hlive
  have hrun : (db.watched.connect url).run (database, log) =
      (((db.connect url).run database).1.map (·, log.length), ((db.connect url).run database).2,
        log ++ [.connect url (((db.connect url).run database).1.map fun _ => ())]) := rfl
  rw [run_connect, run_connect]
  dsimp only [plain]
  rw [hrun]
  rcases (db.connect url).run database with ⟨message | handle, after⟩
  · refine .inl ⟨message, rfl, rfl, rfl, rfl, rfl, ?_, horderly _⟩
    show none = live (log ++ _)
    rw [live_concat]
    exact hlive.symm
  · refine .inr ⟨rfl, rfl, rfl, rfl, rfl, ?_, horderly _⟩
    show some log.length = live (log ++ _)
    rw [live_concat]
    rfl

theorem mirrors_send (hl : l.Tracks) {number : Nat} (hlive : live l.calls = some number)
    (s : Statement) (run : η → String → List Bound → Call δ α) :
    l.Mirrors
      ((Link.send url s fun h sql values =>
        (run h.1 sql values).watch (.send h.2 sql values)).run l)
      ((Link.send url s run).run l.plain) (sent url s number) := by
  obtain ⟨handle, state, database, log⟩ := l
  obtain ⟨⟨handle, other⟩, rfl, rfl⟩ : ∃ h, handle = some h ∧ h.2 = number := by
    have hhandle := hl.live
    rw [hlive] at hhandle
    exact Option.map_eq_some_iff.mp hhandle
  rw [run_send, run_send, sent]
  dsimp only [plain, Option.map]
  cases s.positional? (markerStyle url) with
  | none => exact ⟨rfl, rfl, (List.append_nil log).symm, hl⟩
  | some p =>
    have hrun : ((run handle p.sql (p.values.map Value.bound)).watch
        (.send other p.sql (p.values.map Value.bound))).run (database, log) =
          (((run handle p.sql (p.values.map Value.bound)).run database).1,
            ((run handle p.sql (p.values.map Value.bound)).run database).2,
            log ++ [.send other p.sql (p.values.map Value.bound)]) := rfl
    dsimp only
    rw [hrun]
    have htracks (after : δ) : Tracks (⟨some (handle, other), state, after,
        log ++ [.send other p.sql (p.values.map Value.bound)]⟩ : WatchedLink δ η) := by
      refine ⟨hl.truthful, ?_, hl.orderly.concat hlive⟩
      show some other = live (log ++ _)
      rw [live_concat]
      exact hlive.symm
    rcases (run handle p.sql (p.values.map Value.bound)).run database with ⟨message | x, after⟩
    · exact ⟨rfl, rfl, rfl, htracks after⟩
    · exact ⟨rfl, rfl, rfl, htracks after⟩

theorem mirrors_close (hl : l.Tracks) (hok : ((Link.close db).run l.plain).1 = .ok ()) :
    l.Mirrors ((Link.close db.watched).run l) ((Link.close db).run l.plain)
      ((live l.calls).map Event.close).toList := by
  obtain ⟨handle, state, database, log⟩ := l
  have hlive := hl.live
  rw [run_close] at hok
  rw [run_close, run_close]
  cases handle with
  | none =>
    rw [← hlive]
    exact ⟨rfl, rfl, (List.append_nil log).symm, rfl, hlive, hl.orderly⟩
  | some handle =>
    have hrun : (db.watched.close handle).run (database, log) =
        (((db.close handle.1).run database).1, ((db.close handle.1).run database).2,
          log ++ [.close handle.2]) := rfl
    rw [← hlive]
    dsimp only [plain, Option.map] at hok ⊢
    rw [hrun]
    rcases hclose : (db.close handle.1).run database with ⟨message | ⟨⟩, after⟩
    · simp [hclose] at hok
    · refine ⟨rfl, rfl, rfl, rfl, ?_, hl.orderly.concat hlive.symm⟩
      show none = live (log ++ _)
      rw [live_concat, ← (show some handle.2 = live log from hlive)]
      simp [Event.next, Option.filter]

end Operations

end WatchedLink

end RecordSql
