import Mathlib.Data.List.Forall2
import RecordSql.Proofs.Database.LinkState

/-!
# Cells

What becomes of the values that a database gives and takes. A column's type name says as which kind
a cell is read; a stored value of another kind is lost, though it is not null. A value that was
handed to the database and is given back in a column of its own type is the same again, but for
unsigned words that are no signed ones: these were handed over as digits.

* `Cell.value_eq`: a cell is its stored value if that is of the kind of the column, and null if not.
* `rows_of_query`: the entries of the rows that a query gives, one for each cell.
* `Value.convert_bound`: what was bound converts back, but for wide words.
* `decode_of_holds`: the same, through a row.
-/

namespace RecordSql

/-! ## Reading cells -/

/-- A kind of value that a cell can be read as. -/
inductive Storage
  | bool
  | integer
  | float
  | text
  deriving DecidableEq, Repr

/-- The kind that the cells of a column are read as, by the name of its type. Names that are not
    known stand for text. -/
def Storage.ofTypeName (name : String) : Storage :=
  if name ∈ ["BOOL", "BOOLEAN"] then .bool
  else if name ∈ ["INT2", "INT4", "INT8", "INTEGER", "BIGINT", "SMALLINT"] then .integer
  else if name ∈ ["FLOAT4", "FLOAT8", "REAL", "DOUBLE"] then .float
  else .text

/-- The kind of a stored value, if it is one that cells are read as. -/
def Value.storage? : Value → Option Storage
  | .bool _ => some .bool
  | .int _ => some .integer
  | .float _ => some .float
  | .text _ => some .text
  | _ => none

namespace Cell

/-- The stored value is of the kind that the column is read as. -/
def Fits (c : Cell) : Prop :=
  c.stored.storage? = some (.ofTypeName c.typeName)

instance (c : Cell) : Decidable c.Fits :=
  inferInstanceAs (Decidable (_ = _))

theorem value_eq (c : Cell) : c.value = if c.Fits then c.stored else .null := by
  obtain ⟨column, typeName, stored⟩ := c
  unfold value Fits
  dsimp only
  -- one case for each known name, and one for all others, which `simp_all` keeps apart from those
  split
  all_goals cases stored <;> simp_all [Storage.ofTypeName, Value.storage?]

theorem value_eq_null_iff (c : Cell) : c.value = .null ↔ c.stored = .null ∨ ¬ c.Fits := by
  rw [value_eq]
  by_cases h : c.Fits <;> simp [h]

/-- What a cell becomes in a row: under the name of its column, the stored value, or null if that is
    stored or is of another kind than the column. -/
def Becomes (c : Cell) (entry : String × Value) : Prop :=
  entry.1 = c.column ∧ (entry.2 = .null ↔ c.stored = .null ∨ ¬ c.Fits) ∧
    (entry.2 ≠ .null → entry.2 = c.stored)

theorem becomes_value (c : Cell) : c.Becomes (c.column, c.value) := by
  refine ⟨rfl, c.value_eq_null_iff, fun h => ?_⟩
  rw [ne_eq, value_eq_null_iff, not_or, not_not] at h
  show c.value = c.stored
  rw [value_eq, if_pos h.2]

end Cell

theorem Row.forall₂_ofCells (cells : List Cell) :
    List.Forall₂ Cell.Becomes cells (Row.ofCells cells).columns := by
  rw [Row.ofCells, List.forall₂_map_right_iff, List.forall₂_same]
  exact fun c _ => c.becomes_value

section Query

variable {δ η : Type}

/-- **What a query gives.** Where the database has rows for a statement, a query gives a row for
    each of them, in order. A row has an entry for each cell, in order and under the name of the
    cell's column: the stored value, or null, which it is just if null is stored or what is stored
    is not of the kind that the name of the column's type stands for. -/
theorem rows_of_query (db : Database δ η) (url : String) (s : Statement) {l : Link δ η} {handle : η}
    {p : Positional} {rows : List (List Cell)} {after : δ} (hhandle : l.handle = some handle)
    (hp : s.positional? (Link.markerStyle url) = some p)
    (hrows :
      (db.query handle p.sql (p.values.map Value.bound)).run l.database = (.ok rows, after)) :
    ∃ given,
      ((Link.connection db url).query s).run l = (.ok given, { l with database := after }) ∧
      List.Forall₂ (fun cells row => List.Forall₂ Cell.Becomes cells row.columns) rows given := by
  refine ⟨rows.map Row.ofCells, ?_, ?_⟩
  · rw [Link.connection, Action.run_bind_pure, Link.run_send, hp, hhandle]
    dsimp only
    rw [hrows]
    rfl
  · rw [List.forall₂_map_right_iff, List.forall₂_same]
    exact fun cells _ => Row.forall₂_ofCells cells

end Query

/-- A link to the scripted database that has this row for the next query. -/
def Link.scripted (cells : List Cell) : Link Scripted Unit where
  handle := some ()
  state := .opened
  database := { queries := [.ok [cells]] }

/-- Of a key, a count, a photo and a note that is missing, each has its entry. -/
theorem rows_of_query_scripted :
    let cells : List Cell := [⟨"Id", "BIGINT", .int 1⟩, ⟨"Total", "NULL", .int 5⟩,
      ⟨"Photo", "BLOB", .other "JFIF"⟩, ⟨"Note", "TEXT", .null⟩]
    let s : Statement := { sql := "SELECT 1" }
    s.positional? (Link.markerStyle "sqlite::memory:") = some ⟨"SELECT 1", []⟩ ∧
      ∃ row,
        (((Link.connection Scripted.database "sqlite::memory:").query s).run
          (Link.scripted cells)).1 = .ok [row] ∧
        List.Forall₂ Cell.Becomes cells row.columns := by
  intro cells s
  have hp : s.positional? (Link.markerStyle "sqlite::memory:") = some ⟨"SELECT 1", []⟩ := by
    decide +kernel
  obtain ⟨given, hrun, hrows⟩ := rows_of_query Scripted.database "sqlite::memory:" s
    (l := Link.scripted cells) rfl hp rfl
  cases hrows with
  | cons hrow hnil =>
    cases hnil
    exact ⟨hp, _, congrArg Prod.fst hrun, hrow⟩

/-- A count, whose column has no type, is stored and not null, and is read as null. -/
theorem query_loses_count :
    (((Link.connection Scripted.database "sqlite::memory:").query
        { sql := "SELECT COUNT(*) AS Total FROM T" }).run
      (Link.scripted [⟨"Total", "NULL", .int 5⟩])).1 = .ok [⟨[("Total", .null)]⟩] :=
  rfl

/-! ## Cells that hold what was bound -/

/-- What is stored where a value that was handed to the database is kept unchanged. -/
def Bound.stored : Bound → Value
  | .null => .null
  | .bool b => .bool b
  | .int n => .int n
  | .float x => .float x
  | .text s => .text s

/-- The name of the type of a value that was handed to the database, unless it is null. -/
def Bound.typeName? : Bound → Option String
  | .null => none
  | .bool _ => some "BOOLEAN"
  | .int _ => some "BIGINT"
  | .float _ => some "DOUBLE"
  | .text _ => some "TEXT"

/-- The cell holds, unchanged, a value that was handed to the database, in a column of the value's
    type; a null can be in any column. -/
def Cell.Holds (c : Cell) (b : Bound) : Prop :=
  c.stored = b.stored ∧ ∀ name ∈ b.typeName?, c.typeName = name

theorem Cell.value_of_holds {c : Cell} {b : Bound} (h : c.Holds b) : c.value = b.stored := by
  obtain ⟨hstored, hname⟩ := h
  rw [value_eq]
  cases b with
  | null => simp [hstored, Bound.stored]
  | bool | int | float | text =>
    have hfits : c.Fits := by
      rw [Fits, hstored, hname _ rfl]
      rfl
    rw [if_pos hfits, hstored]

/-- The value is an unsigned word that is no signed one. -/
def Value.isWide : Value → Bool
  | .uint n => Int64.maxValue.toInt < n.toNat
  | _ => false

theorem Value.convert_bound_int32 (n : Int32) :
    (Target.int32.toValue n).bound.stored.convert .int32 = .ok n := by
  have hwide : (Int64.ofInt n.toInt).toInt = n.toInt := by
    have hlo := n.le_toInt
    have hhi := n.toInt_lt
    exact Int64.toInt_ofInt_of_le (by omega) (by omega)
  show (toInt32 (Int64.ofInt n.toInt).toInt).mapError ConversionError.range = .ok n
  rw [hwide, toInt32_eq_ok_iff.mpr rfl]
  rfl

/-- An unsigned word that is a signed one is bound as that, and converts back; any other is bound as
    its digits, which do not. -/
theorem Value.convert_bound_uint64 (n : UInt64) :
    (Value.uint n).bound.stored.convert .uint64 =
      if (Value.uint n).isWide then .error (.mismatch "unsigned integer" "text") else .ok n := by
  rw [bound]
  -- the check that decides the form in which the word is bound also decides how it comes back
  cases hn : toInt64 n.toNat with
  | ok m =>
    have hm : m.toInt = n.toNat := toInt64_eq_ok_iff.mp hn
    have hnarrow : (Value.uint n).isWide = false := by
      have hmax := m.toInt_le
      rw [hm] at hmax
      simpa [isWide] using hmax
    rw [hnarrow]
    show (toUInt64 m.toInt).mapError ConversionError.range = .ok n
    rw [hm, toUInt64_eq_ok_iff.mpr rfl]
    rfl
  | error e =>
    have hwide : (Value.uint n).isWide = true := by
      by_contra hnarrow
      have hmax : (n.toNat : Int) ≤ Int64.maxValue.toInt := by simpa [isWide] using hnarrow
      have hmin : Int64.minValue.toInt ≤ n.toNat := Int.le_trans (by decide) (Int.natCast_nonneg _)
      have hfits : toInt64 n.toNat = .ok _ := map_fit_eq_ok_iff.mpr ⟨hmin, hmax, rfl⟩
      rw [hn] at hfits
      cases hfits
    rw [hwide]
    rfl

theorem Value.convert_bound (t : Target) (ht : t ≠ .dateTime) (x : t.Carrier) :
    (t.toValue x).bound.stored.convert t =
      if (t.toValue x).isWide then .error (.mismatch "unsigned integer" "text") else .ok x := by
  cases t with
  | int32 => exact convert_bound_int32 x
  | uint64 => exact convert_bound_uint64 x
  | bool | int64 | float | text => rfl
  | dateTime => contradiction

theorem Value.decode_bound (t : Target) (ht : t ≠ .dateTime) (x : t.Carrier) (column : String) :
    (t.toValue x).bound.stored.decode column t =
      if (t.toValue x).isWide then
        .error (.decode column "expected unsigned integer, found text")
      else .ok x := by
  rw [decode, convert_bound t ht]
  split <;> rfl

theorem Value.isNull_stored_bound (t : Target) (x : t.Carrier) :
    (t.toValue x).bound.stored.isNull = false := by
  cases t with
  | uint64 =>
    show (Value.uint x).bound.stored.isNull = false
    rw [bound]
    split <;> rfl
  | bool | int64 | int32 | float | text | dateTime => rfl

theorem Row.get?_ofCells (cells : List Cell) (column : String) :
    (Row.ofCells cells).get? column =
      (cells.find? fun c => Text.equalFold c.column column).map Cell.value := by
  rw [get?, ofCells, List.find?_map, Option.map_map]
  rfl

/-- **What was written is read back.** Take a value of a type, or none, that was bound, and a row
    whose first column of a name, without regard to the case of letters, holds what was bound. The
    column decodes to the value, or to none; but an unsigned word that is no signed one is a text in
    the row, and that is not decoded to an unsigned word. -/
theorem decode_of_holds (t : Target) (ht : t ≠ .dateTime) (x : Option t.Carrier) {cells : List Cell}
    {cell : Cell} {column : String}
    (hcell : cells.find? (fun c => Text.equalFold c.column column) = some cell)
    (hholds : cell.Holds ((x.map t.toValue).getD .null).bound) :
    let wide := ((x.map t.toValue).getD .null).isWide
    let lost := Error.decode column "expected unsigned integer, found text"
    (Row.ofCells cells).decodeNullable column t = (if wide then .error lost else .ok x) ∧
      ∀ y, x = some y →
        (Row.ofCells cells).decode column t = if wide then .error lost else .ok y := by
  intro wide lost
  have hvalue : (Row.ofCells cells).value column =
      .ok ((x.map t.toValue).getD .null).bound.stored := by
    rw [Row.value, Row.get?_ofCells, hcell, Option.map_some, Cell.value_of_holds hholds]
  rw [Row.decodeNullable, Row.decode, hvalue]
  cases x with
  | none => exact ⟨rfl, fun y hy => nomatch hy⟩
  | some y =>
    have hdecode : (t.toValue y).bound.stored.decode column t =
        if wide then .error lost else .ok y :=
      Value.decode_bound t ht y column
    refine ⟨?_, fun z hz => ?_⟩
    · show (t.toValue y).bound.stored.decodeNullable column t = _
      rw [Value.decodeNullable_of_not_isNull (Value.isNull_stored_bound t y), hdecode]
      split <;> rfl
    · cases hz
      exact hdecode

/-- The lowest level, in the second column of a row. -/
theorem decode_of_holds_level :
    let level : Cell := ⟨"Level", "BIGINT", .int (-2147483648)⟩
    let cells : List Cell := [⟨"Id", "BIGINT", .int 1⟩, level]
    let x : Int32 := -2147483648
    cells.find? (fun c => Text.equalFold c.column "LEVEL") = some level ∧
      level.Holds (Value.int (-2147483648)).bound ∧
      (Row.ofCells cells).decodeNullable "LEVEL" .int32 = .ok (some x) ∧
      (Row.ofCells cells).decode "LEVEL" .int32 = .ok x := by
  intro level cells x
  have hcell : cells.find? (fun c => Text.equalFold c.column "LEVEL") = some level := by
    decide +kernel
  have hholds : level.Holds (Value.int (-2147483648)).bound :=
    ⟨rfl, by simp [Value.bound, Bound.typeName?, level]⟩
  obtain ⟨hnullable, hdecode⟩ := decode_of_holds .int32 (by decide) (some x) hcell hholds
  exact ⟨hcell, hholds, hnullable, hdecode x rfl⟩

/-- The least unsigned word that is no signed one is bound as its digits, and these are given back
    as they are but not decoded. -/
theorem decode_loses_wide :
    let n : UInt64 := 9223372036854775808
    let cell : Cell := ⟨"N", "TEXT", .text "9223372036854775808"⟩
    cell.Holds (Value.uint n).bound ∧
      (Row.ofCells [cell]).decode "N" .uint64 =
        .error (.decode "N" "expected unsigned integer, found text") := by
  intro n cell
  have hbound : (Value.uint n).bound = .text "9223372036854775808" := by decide +kernel
  rw [hbound]
  exact ⟨⟨rfl, by simp [Bound.typeName?, cell]⟩, by decide +kernel⟩

end RecordSql
