import RecordSql.Document.Toml.Line

/-!
# Reading TOML

A TOML text as a document. The lines after the name of a table fill that table; the lines before the
first name fill the table of the whole text.
-/

namespace RecordSql.Toml

/-- The lines that fill one table, after the line that names it. -/
structure Filling where
  several : Bool
  path : List String
  table : Table

/-- The table of the whole text so far, and the table that is being filled unless it is that one. -/
structure Progress where
  whole : Table := {}
  filling : Option Filling := none

namespace Filling

/-- Puts the filled table where its name says. -/
def store (x : Filling) (whole : Table) : Option Table := do
  let key ← x.path.getLast?
  let step (parent : Table) : Option Table :=
    if x.several then parent.pushTable key x.table.entries else parent.addNew key x.table.toNode
  whole.change false step x.path.dropLast

end Filling

/-- The table at the end of a path, as it stands so far. -/
def tableAt : List String → Table → Option Table
  | [], t => some t
  | key :: path, t =>
    match t.find? key with
    | none => tableAt path {}
    | some (.value _) => none
    | some (.table implicit dotted entries) => tableAt path ⟨implicit, dotted, entries⟩
    | some (.tables items) => do tableAt path { entries := ← items.getLast? }

namespace Progress

/-- The table of the whole text after what is being filled is put into it. -/
def finish (p : Progress) : Option Table :=
  match p.filling with
  | none => some p.whole
  | some x => x.store p.whole

/-- Starts to fill the table of a name. A single table takes over what came into being on the way.
    -/
def start (several : Bool) (path : List String) (p : Progress) : Option Progress := do
  let whole ← p.finish
  let key ← path.getLast?
  let parent ← tableAt path.dropLast whole
  if several then
    if parent.opensAnother key then return ⟨whole, some ⟨true, path, {}⟩⟩ else none
  else
    let table ← parent.opened key
    let whole ← whole.change false (fun t => some (t.erase key)) path.dropLast
    return ⟨whole, some ⟨false, path, table⟩⟩

/-- Takes in one line. -/
def step (p : Progress) : Line → Option Progress
  | .name several path => p.start several path
  | .assign path value =>
    match p.filling with
    | none => do return { p with whole := ← p.whole.assign path value }
    | some x => do return { p with filling := some { x with table := ← x.table.assign path value } }

end Progress

/-- The characters of a text without a byte order mark in front. -/
def withoutMark (s : String) : List Char :=
  match s.toList with
  | '\ufeff' :: cs => cs
  | cs => cs

/-- Reads a text. -/
def read? (s : String) : Option Document := do
  let cs := withoutMark s
  let lines ← readLines (cs.length + 1) cs
  let progress ← lines.foldlM Progress.step {}
  return (← progress.finish).toDocument

/-- A case that carries nothing may have an empty list or table after its name, and a record given
    as a list may have further items. -/
def conventions : Document.Conventions where
  isNothing
    | .list items => items.isEmpty
    | .table entries => entries.isEmpty
    | _ => false
  skipsExtraItems := true

end RecordSql.Toml
