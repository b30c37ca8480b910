import RecordSql.Connection.Row

/-!
# Databases

What this library asks of a database behind a URL: to be reached, left, and to run positional
statements on a handle. The database is a state of any type, its handles are of any type, and each
call gives any outcome.
-/

namespace RecordSql

/-- A value as it is handed to a database. -/
inductive Bound
  | null
  | bool (b : Bool)
  | int (n : Int64)
  | float (x : Binary64)
  | text (s : String)
  deriving DecidableEq

/-- The form in which a value is handed to a database. An unsigned word that is no signed one
    becomes its digits. Model of `bind_all`. -/
def Value.bound : Value → Bound
  | .null => .null
  | .bool b => .bool b
  | .int n | .enumeration n => .int n
  | .uint n =>
    match toInt64 n.toNat with
    | .ok m => .int m
    | .error _ => .text (Value.uint n).display
  | .float x => .float x
  | .text s | .other s => .text s
  | .dateTime t => .text (Value.dateTime t).display

/-- A cell of a result as the database gives it. -/
structure Cell where
  column : String
  /-- The name of the type of the column. -/
  typeName : String
  stored : Value
  deriving DecidableEq

namespace Cell

/-- The value of a cell, read as the type that the column's type name stands for. What cannot be
    read so is null. Model of the match on type names in `row_from_any`. -/
def value (c : Cell) : Value :=
  match c.typeName with
  | "BOOL" | "BOOLEAN" =>
    match c.stored with
    | .bool b => .bool b
    | _ => .null
  | "INT2" | "INT4" | "INT8" | "INTEGER" | "BIGINT" | "SMALLINT" =>
    match c.stored with
    | .int n => .int n
    | _ => .null
  | "FLOAT4" | "FLOAT8" | "REAL" | "DOUBLE" =>
    match c.stored with
    | .float x => .float x
    | _ => .null
  | _ =>
    match c.stored with
    | .text s => .text s
    | _ => .null

end Cell

/-- The row that cells make up. Model of `row_from_any`. -/
def Row.ofCells (cells : List Cell) : Row :=
  ⟨cells.map fun c => (c.column, c.value)⟩

/-- A call to a database, which gives a result or fails with a text. -/
abbrev Call (δ α : Type) : Type :=
  ExceptT String (StateM δ) α

/-- A database whose state is of the type `δ` and whose handles are of the type `η`. -/
structure Database (δ η : Type) where
  /-- Reaches the database behind a URL. -/
  connect (url : String) : Call δ η
  close (handle : η) : Call δ Unit
  /-- Runs a statement and gives the number of rows that it changed. -/
  execute (handle : η) (sql : String) (values : List Bound) : Call δ Nat
  /-- Runs a statement and gives the rows of its result. -/
  query (handle : η) (sql : String) (values : List Bound) : Call δ (List (List Cell))

/-- The database of a program that has no driver for any. It cannot be reached. -/
def Database.absent : Database Unit Empty where
  connect url := throw ("no driver found for url " ++ url)
  close handle := nomatch handle
  execute handle _ _ := nomatch handle
  query handle _ _ := nomatch handle

end RecordSql
