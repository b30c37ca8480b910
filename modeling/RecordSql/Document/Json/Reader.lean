import RecordSql.Document.Json.Number
import RecordSql.Document.Json.Text

/-!
# Reading JSON

A JSON text as a document. Keys may repeat: it is the reader of a record that refuses a field given
twice.
-/

namespace RecordSql.Json

/-- The characters that may stand between the parts of a text. -/
def isBlank (c : Char) : Bool :=
  c == ' ' || c == '\n' || c == '\t' || c == '\r'

/-- The text from its first character that is not blank. -/
def skipBlanks (cs : List Char) : List Char :=
  cs.dropWhile isBlank

/-- The rest after a word that starts the text. -/
def dropWord? (word cs : List Char) : Option (List Char) :=
  if word.isPrefixOf cs then some (cs.drop word.length) else none

/-- A table, unless one of its keys is no text; then it can only be skipped. -/
def tableOf (entries : List (Option String × Document)) : Document :=
  match entries.mapM fun e => e.1.map fun key => (key, e.2) with
  | some entries => .table entries
  | none => .unreadable

/- Every call but the first follows a character that its caller took, so twice the length of the
   text is enough fuel. -/
mutual

/-- Reads one value. -/
def readValue : Nat → List Char → Option (Document × List Char)
  | 0, _ => none
  | fuel + 1, cs =>
    match skipBlanks cs with
    | '"' :: rest => do
      let (s, rest) ← readText rest
      return ((s.map Document.text).getD .unreadable, rest)
    | '[' :: rest =>
      match skipBlanks rest with
      | ']' :: rest => some (.list [], rest)
      | rest => do
        let (items, rest) ← readItems fuel rest
        return (.list items, rest)
    | '{' :: rest =>
      match skipBlanks rest with
      | '}' :: rest => some (.table [], rest)
      | rest => do
        let (entries, rest) ← readEntries fuel rest
        return (tableOf entries, rest)
    | cs =>
      ((dropWord? "null".toList cs).map fun rest => (Document.null, rest)) <|>
      ((dropWord? "true".toList cs).map fun rest => (Document.bool true, rest)) <|>
      ((dropWord? "false".toList cs).map fun rest => (Document.bool false, rest)) <|>
      ((readNumeral cs).map fun r => (r.1.toDocument, r.2))

/-- Reads the items of a list and its closing bracket. -/
def readItems : Nat → List Char → Option (List Document × List Char)
  | 0, _ => none
  | fuel + 1, cs => do
    let (item, rest) ← readValue fuel cs
    match skipBlanks rest with
    | ']' :: rest => return ([item], rest)
    | ',' :: rest =>
      let (items, rest) ← readItems fuel rest
      return (item :: items, rest)
    | _ => none

/-- Reads the entries of a table and its closing brace. -/
def readEntries : Nat → List Char → Option (List (Option String × Document) × List Char)
  | 0, _ => none
  | fuel + 1, cs =>
    match skipBlanks cs with
    | '"' :: rest => do
      let (key, rest) ← readText rest
      match skipBlanks rest with
      | ':' :: rest =>
        let (value, rest) ← readValue fuel rest
        match skipBlanks rest with
        | '}' :: rest => return ([(key, value)], rest)
        | ',' :: rest =>
          let (entries, rest) ← readEntries fuel rest
          return ((key, value) :: entries, rest)
        | _ => none
      | _ => none
    | _ => none

end

/-- Reads a text that is one value and nothing else. -/
def read? (s : String) : Option Document :=
  let cs := s.toList
  match readValue (2 * cs.length + 2) cs with
  | some (d, rest) => if skipBlanks rest = [] then some d else none
  | none => none

/-- A case that carries nothing may have a null after its name, and a record given as a list has no
    further items. -/
def conventions : Document.Conventions where
  isNothing
    | .null => true
    | _ => false
  skipsExtraItems := false

end RecordSql.Json
