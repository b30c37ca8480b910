import RecordSql.CommandLine.Arguments
import RecordSql.Compiler.Basic
import RecordSql.Connection.Row
import RecordSql.Document.Json.Writer
import RecordSql.Schema.Descriptor
import RecordSql.Statement.Basic

/-!
# Reports

What the program prints, as lines: dialects, the members of a schema, a statement with its bindings,
and the rows of a result.
-/

namespace RecordSql.CommandLine

/-! ## Tables

Rows as lines of text, one under the other. The width of a column is the number of bytes of its
longest text, so it has room for every text: no text has more characters than bytes. A width is kept
in sixteen bits, and rows with a wider column have no lines. -/

namespace Table

/-- The texts of the cells of a row. -/
def cells (r : Row) : List String :=
  r.columns.map fun c => c.2.display

/-- Widths that have room for the texts as well, as far as there are widths. -/
def widen : List Nat → List String → List Nat
  | w :: widths, s :: texts => max w s.utf8ByteSize :: widen widths texts
  | widths, _ => widths

/-- The widths of the columns: the names and the cells of all rows have room. -/
def widths (names : List String) (rows : List (List String)) : List Nat :=
  rows.foldl widen (names.map String.utf8ByteSize)

/-- One line of texts, each filled up to the width of its column. -/
def line (widths : List Nat) (texts : List String) : String :=
  " │ ".intercalate (texts.zipWith (fun s w => Text.padRight w s) widths)

/-- The line between the names and the rows. -/
def separator (widths : List Nat) : String :=
  "─┼─".intercalate (widths.map (Text.rule '─'))

/-- The greatest width of a column. -/
def maxWidth : Nat := 65535

/-- The lines of the names and the rows. There are none if a column is too wide. -/
def lines? (names : List String) (rows : List (List String)) : Option (List String) :=
  let ws := widths names rows
  if ws.all (· ≤ maxWidth) then some (line ws names :: separator ws :: rows.map (line ws)) else none

end Table

namespace Report

/-- The line under the heads of a list. -/
def listRule : String := Text.rule '─' 60

/-! ## Dialects -/

/-- The line about a dialect. -/
def dialectLine (d : Dialect) : String :=
  Text.padRight 10 d.name ++ " " ++ Text.padRight 8 (String.ofList [d.marker]) ++ " " ++
    Text.padRight 12 (Compiler.filterPlaceholder { dialect := d } "Field") ++ " " ++
    (d.readBack?.map ReadBack.call).getD "none"

/-- The lines about all dialects. Model of `show_dialects`. -/
def dialects : List String :=
  ["Dialect Reference", "",
   Text.padRight 10 "Dialect" ++ " " ++ Text.padRight 8 "Marker" ++ " " ++
     Text.padRight 12 "Where name" ++ " " ++ "Identity read-back",
   listRule] ++ Dialect.all.map dialectLine

/-! ## Schemas -/

/-- A line about a member: its position, its name, its kind and a note. -/
def memberLine (ordinal : Nat) (name kind note : String) : String :=
  Text.padLeft 4 (toString ordinal) ++ " " ++ Text.padRight 20 name ++ " " ++
    Text.padRight 18 kind ++ " " ++ note

/-- The line about the member at a position. A member without a field is skipped. -/
def describeMember (d : Descriptor) (m : Member) (ordinal : Nat) : String :=
  match d.fields.find? fun f => f.ordinal == ordinal with
  | some f => memberLine ordinal f.name f.kind.title (if f.ignored then "ignored" else "")
  | none => memberLine ordinal m.name m.kind.title "skipped"

/-- The lines about a schema, one for each member. Model of `describe_schema`. -/
def describe (s : Schema) : List String :=
  ["Table: " ++ s.descriptor.table, "",
   Text.padRight 4 "#" ++ " " ++ Text.padRight 20 "Field" ++ " " ++ Text.padRight 18 "Kind" ++
     " " ++ "Note",
   listRule] ++ s.members.zipIdx.map fun (m, i) => describeMember s.descriptor m i

/-! ## Statements -/

/-- The line about a binding. -/
def bindingLine (b : Binding) : String :=
  "  " ++ b.name ++ " = " ++ b.value.display

/-- The lines about a statement. Model of `print_statement`. -/
def statement (s : Statement) : List String :=
  ["Generated SQL:", s.sql] ++
    if s.bindings.isEmpty then [] else ["", "Bindings:"] ++ s.bindings.map bindingLine

/-! ## Rows -/

/-- A value in a document. Model of `to_json`. -/
def valueDocument : Value → Document
  | .null => .null
  | .bool b => .bool b
  | .int n | .enumeration n => .int n.toInt
  | .uint n => .int n.toNat
  | .float x => .float x
  | v => .text v.display

/-- Puts an entry into entries that are sorted by key, in place of one with its key. -/
def putSorted (key : String) (d : Document) : List (String × Document) → List (String × Document)
  | [] => [(key, d)]
  | e :: rest =>
    if key < e.1 then (key, d) :: e :: rest
    else if key = e.1 then (key, d) :: rest
    else e :: putSorted key d rest

/-- A row in a document. Of several columns of a name the last is kept. -/
def rowDocument (r : Row) : Document :=
  .table (r.columns.foldl (fun entries c => putSorted c.1 (valueDocument c.2) entries) [])

/-- The lines about rows in a table, if there is a table of them. The first row names the
    columns. -/
def table? (rows : List Row) : Option (List String) :=
  let names := (rows.head?.map fun r => r.columns.map Prod.fst).getD []
  (Table.lines? names (rows.map Table.cells)).map fun lines =>
    lines ++ ["", toString rows.length ++ " row(s) returned"]

/-- The lines about rows in the given format, if the rows fit into it. Model of `format_output`. -/
def rows? (format : RowFormat) (rs : List Row) : Option (List String) :=
  if rs.isEmpty then some ["(no results)"]
  else
    match format with
    | .json => some [Json.pretty (.list (rs.map rowDocument))]
    | .table => table? rs

end Report

end RecordSql.CommandLine
