import RecordSql.Database.Basic

/-!
# Scripted databases

A database whose outcomes are set in advance, one after the other for each kind of call, and which
keeps every call. Where the outcomes run out, calls succeed with nothing.
-/

namespace RecordSql

/-- A call that a database has seen. -/
inductive Seen
  | connect (url : String)
  | close
  | execute (sql : String) (values : List Bound)
  | query (sql : String) (values : List Bound)
  deriving DecidableEq

/-- A database that answers from queues of outcomes. -/
structure Scripted where
  connects : List (Except String Unit) := []
  closes : List (Except String Unit) := []
  executes : List (Except String Nat) := []
  queries : List (Except String (List (List Cell))) := []
  /-- The calls in order. -/
  seen : List Seen := []

namespace Scripted

/-- Keeps a call before its outcome is known. -/
def record (call : Seen) : Call Scripted Unit :=
  modify fun s => { s with seen := s.seen ++ [call] }

/-- The outcome at the head of a queue, or the given one if the queue is empty. -/
def outcome {α : Type} (queue : List (Except String α)) (whenEmpty : α) : Call Scripted α :=
  ExceptT.mk (pure ((queue.head?).getD (.ok whenEmpty)))

/-- The scripted database. All its handles are alike. -/
def database : Database Scripted Unit where
  connect url := do
    record (.connect url)
    let queue := (← get).connects
    modify fun s => { s with connects := queue.tail }
    outcome queue ()
  close _ := do
    record .close
    let queue := (← get).closes
    modify fun s => { s with closes := queue.tail }
    outcome queue ()
  execute _ sql values := do
    record (.execute sql values)
    let queue := (← get).executes
    modify fun s => { s with executes := queue.tail }
    outcome queue 0
  query _ sql values := do
    record (.query sql values)
    let queue := (← get).queries
    modify fun s => { s with queries := queue.tail }
    outcome queue []

end Scripted

end RecordSql
