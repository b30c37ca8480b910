import RecordSql.Error
import RecordSql.Text.Basic

/-!
# Rows

A row of a result: the values of its columns in order. Columns are looked up by name without regard
to the case of letters, and the first of several columns of a name is taken.
-/

namespace RecordSql

/-- A row of a result. -/
structure Row where
  columns : List (String × Value) := []
  deriving DecidableEq

/-- A column that is wanted as a value of a type. -/
structure Slot where
  column : String
  target : Target
  /-- Whether the column may be null. -/
  nullable : Bool
  deriving DecidableEq, Repr

namespace Row

/-- Adds a column at the end. -/
def push (r : Row) (column : String) (value : Value) : Row :=
  ⟨r.columns ++ [(column, value)]⟩

/-- The value of a column. Model of `Row::get`. -/
def get? (r : Row) (column : String) : Option Value :=
  (r.columns.find? fun c => Text.equalFold c.1 column).map Prod.snd

/-- The value of a column that must be there. -/
def value (r : Row) (column : String) : Except Error Value :=
  match r.get? column with
  | some v => .ok v
  | none => .error (.decode column "no such column")

/-- The value of a column as a value of a type. Model of `Row::try_get`. -/
def decode (r : Row) (column : String) (t : Target) : Except Error t.Carrier := do
  (← r.value column).decode column t

/-- The value of a column that may be null as a value of a type. -/
def decodeNullable (r : Row) (column : String) (t : Target) : Except Error (Option t.Carrier) := do
  (← r.value column).decodeNullable column t

/-- What a slot takes from a row. -/
def take (r : Row) (slot : Slot) : Except Error Value :=
  if slot.nullable then
    (r.decodeNullable slot.column slot.target).map fun x =>
      (x.map slot.target.toValue).getD .null
  else (r.decode slot.column slot.target).map slot.target.toValue

/-- What each slot takes from a row, in order, under the name of its column. -/
def pick (r : Row) (slots : List Slot) : Except Error Row := do
  let columns ← slots.mapM fun slot => do return (slot.column, ← r.take slot)
  return ⟨columns⟩

end Row

end RecordSql
