import RecordSql.Document.Json.Text
import RecordSql.Number.Layout

/-!
# Writing JSON

A document as a JSON text, in one line or with one item per line.
-/

namespace RecordSql.Json

/-- A floating point number; one that is not finite has no spelling and becomes null. -/
def writeFloat (x : Binary64) : String :=
  if x.isFinite then Layout.document.writeFinite x else "null"

/-- A value that is neither a list nor a table. -/
def writeScalar : Document → String
  | .bool b => if b then "true" else "false"
  | .int n => toString n
  | .float x => writeFloat x
  | .text s => quote s
  | _ => "null"

mutual

/-- A document in one line. -/
def compact : Document → String
  | .list items => "[" ++ ",".intercalate (compactItems items) ++ "]"
  | .table entries => "\x7b" ++ ",".intercalate (compactEntries entries) ++ "\x7d"
  | d => writeScalar d

/-- The items of a list, each in one line. -/
def compactItems : List Document → List String
  | [] => []
  | d :: ds => compact d :: compactItems ds

/-- The entries of a table, each in one line. -/
def compactEntries : List (String × Document) → List String
  | [] => []
  | (key, d) :: rest => (quote key ++ ":" ++ compact d) :: compactEntries rest

end

/-- Lines between an opening and a closing bracket, each indented by two spaces more than the
    brackets; nothing stands between the brackets if there are no lines. -/
def block (opening closing : String) (depth : Nat) (lines : List String) : String :=
  let indent (n : Nat) := "\n" ++ String.ofList (List.replicate (2 * n) ' ')
  if lines.isEmpty then opening ++ closing
  else
    opening ++ ",".intercalate (lines.map (indent (depth + 1) ++ ·)) ++ indent depth ++ closing

mutual

/-- A document with one item per line, at the given depth. -/
def prettyAt (depth : Nat) : Document → String
  | .list items => block "[" "]" depth (prettyItems (depth + 1) items)
  | .table entries => block "\x7b" "\x7d" depth (prettyEntries (depth + 1) entries)
  | d => writeScalar d

/-- The items of a list. -/
def prettyItems (depth : Nat) : List Document → List String
  | [] => []
  | d :: ds => prettyAt depth d :: prettyItems depth ds

/-- The entries of a table. -/
def prettyEntries (depth : Nat) : List (String × Document) → List String
  | [] => []
  | (key, d) :: rest => (quote key ++ ": " ++ prettyAt depth d) :: prettyEntries depth rest

end

/-- A document with one item per line. -/
def pretty (d : Document) : String :=
  prettyAt 0 d

end RecordSql.Json
