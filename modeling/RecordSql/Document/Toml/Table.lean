import RecordSql.Document.Basic

/-!
# Tables of TOML

The tables of a text while it is read. A table can come into being without being named, as a step on
the way to another one; such a table may still be named once. A table that was made by a path of
keys cannot be named at all, and one that was named cannot be extended by a path of keys.
-/

namespace RecordSql.Toml

/-- What a key stands for. -/
inductive Node
  | value (d : Document)
  /-- A table, whether it came into being on the way only, and whether a path of keys made it. -/
  | table (implicit dotted : Bool) (entries : List (String × Node))
  /-- Tables under one name, the last of which is being filled. -/
  | tables (items : List (List (String × Node)))

/-- A table. -/
structure Table where
  implicit : Bool := false
  dotted : Bool := false
  entries : List (String × Node) := []

namespace Table

/-- The table as what a key stands for. -/
def toNode (t : Table) : Node :=
  .table t.implicit t.dotted t.entries

/-- What a key stands for in a table. -/
def find? (t : Table) (key : String) : Option Node :=
  (t.entries.find? fun e => e.1 == key).map Prod.snd

/-- The table without a key. -/
def erase (t : Table) (key : String) : Table :=
  { t with entries := t.entries.filter fun e => e.1 != key }

/-- The table with a key for a node, in place of what the key stood for. -/
def put (t : Table) (key : String) (n : Node) : Table :=
  { t with entries := (t.erase key).entries ++ [(key, n)] }

/-- Changes the table at the end of a path, whose missing tables are made. A path of keys, for which
    `dotted` is set, does not enter tables that were named. A step into several tables enters the
    last. -/
def change (dotted : Bool) (f : Table → Option Table) : List String → Table → Option Table
  | [], t => f t
  | key :: path, t =>
    match t.find? key with
    | none => do
      let child ← change dotted f path ⟨true, dotted, []⟩
      return t.put key child.toNode
    | some (.value _) => none
    | some (.table implicit wasDotted entries) =>
      if dotted && !implicit then none
      else do
        let child ← change dotted f path ⟨implicit, wasDotted, entries⟩
        return t.put key child.toNode
    | some (.tables items) => do
      let child ← change dotted f path { entries := ← items.getLast? }
      return t.put key (.tables (items.dropLast ++ [child.entries]))

/-- Gives a new key a value. -/
def addNew (key : String) (n : Node) (t : Table) : Option Table :=
  match t.find? key with
  | some _ => none
  | none => some (t.put key n)

/-- Gives the key at the end of a path a value. The table it is put into must have been made by a
    path of keys, unless the path is a single key. -/
def assign (path : List String) (d : Document) (t : Table) : Option Table := do
  let key ← path.getLast?
  let step (t : Table) : Option Table :=
    if t.dotted == path.dropLast.isEmpty then none else t.addNew key (.value d)
  t.change true step path.dropLast

/-- The table that a name opens: a new one, or one that came into being on the way. -/
def opened (key : String) (t : Table) : Option Table :=
  match t.find? key with
  | none => some {}
  | some (.table true false entries) => some { entries }
  | some _ => none

/-- Whether a name can open one more of several tables. -/
def opensAnother (key : String) (t : Table) : Bool :=
  match t.find? key with
  | none | some (.tables _) => true
  | some _ => false

/-- Adds one more of several tables under a name. -/
def pushTable (key : String) (entries : List (String × Node)) (t : Table) : Option Table :=
  match t.find? key with
  | none => some (t.put key (.tables [entries]))
  | some (.tables items) => some (t.put key (.tables (items ++ [entries])))
  | some _ => none

end Table

/-! ## Documents -/

mutual

/-- The document of a node. -/
def Node.toDocument : Node → Document
  | .value d => d
  | .table _ _ entries => .table (entryDocuments entries)
  | .tables items => .list (tableDocuments items)

/-- The documents of the entries of a table. -/
def entryDocuments : List (String × Node) → List (String × Document)
  | [] => []
  | (key, n) :: rest => (key, n.toDocument) :: entryDocuments rest

/-- The documents of several tables. -/
def tableDocuments : List (List (String × Node)) → List Document
  | [] => []
  | entries :: rest => .table (entryDocuments entries) :: tableDocuments rest

end

/-- The document of a table. -/
def Table.toDocument (t : Table) : Document :=
  .table (entryDocuments t.entries)

end RecordSql.Toml
