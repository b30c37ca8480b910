import RecordSql.Document.Toml.Scalar
import RecordSql.Document.Toml.Table

/-!
# Lines of TOML

A text is a row of lines that either name a table or give a path of keys a value; comments and empty
lines are skipped. A value can be a list, which may go over several lines, or a table in one line.
-/

namespace RecordSql.Toml

/-! ## Blanks and comments -/

/-- The text behind a comment, if it starts with one. -/
def dropComment : List Char → List Char
  | '#' :: cs => cs.dropWhile isTextChar
  | cs => cs

/-- The text behind the end of a line, before which blanks and a comment may stand. -/
def endLine (cs : List Char) : Option (List Char) :=
  match dropComment (skipBlanks cs) with
  | [] => some []
  | rest => dropNewline? rest

/-- Skips at most `limit` comments and line breaks and the blanks around them. A comment is ended by
    a line break. -/
def skipLines : (limit : Nat) → List Char → Option (List Char)
  | 0, cs => some cs
  | limit + 1, cs =>
    match skipBlanks cs with
    | '#' :: rest => do skipLines limit (← dropNewline? (dropComment ('#' :: rest)))
    | rest =>
      match dropNewline? rest with
      | some rest => skipLines limit rest
      | none => some rest

/-- Skips all comments, line breaks and blanks. -/
def skipToItem (cs : List Char) : Option (List Char) :=
  skipLines (cs.length + 1) cs

/-! ## Values -/

/-- The greatest number of lists and tables around a value. -/
def depthLimit : Nat := 79

/-- The table that paths of keys and their values make up in one line. -/
def inlineTable (pairs : List (List String × Document)) : Option Document :=
  (pairs.foldlM (fun (t : Table) p => t.assign p.1 p.2) {}).map Table.toDocument

/- Every call but the first follows a character that its caller took, so twice the length of the
   text is enough fuel. -/
mutual

/-- Reads a value inside which lists and tables may be nested `depth` deep. -/
def readValue : (fuel depth : Nat) → List Char → Option (Document × List Char)
  | fuel + 1, depth + 1, '[' :: rest => do
    let (items, rest) ← readItems fuel depth rest
    return (.list items, rest)
  | fuel + 1, depth + 1, '{' :: rest =>
    match skipBlanks rest with
    | '}' :: rest => some (.table [], rest)
    | rest => do
      let (pairs, rest) ← readPairs fuel depth rest
      return (← inlineTable pairs, rest)
  | _, _, cs => readScalar cs

/-- Reads the items of a list and its closing bracket. A comma may stand after the last item. -/
def readItems : (fuel depth : Nat) → List Char → Option (List Document × List Char)
  | 0, _, _ => none
  | fuel + 1, depth, cs => do
    match ← skipToItem cs with
    | ']' :: rest => return ([], rest)
    | cs =>
      let (item, rest) ← readValue fuel depth cs
      match ← skipToItem rest with
      | ']' :: rest => return ([item], rest)
      | ',' :: rest =>
        let (items, rest) ← readItems fuel depth rest
        return (item :: items, rest)
      | _ => none

/-- Reads the paths and values of a table in one line and its closing brace. -/
def readPairs : (fuel depth : Nat) → List Char → Option (List (List String × Document) × List Char)
  | 0, _, _ => none
  | fuel + 1, depth, cs => do
    let (path, rest) ← readPath pathLimit cs
    let (value, rest) ← readValue fuel depth (skipBlanks (← expect '=' rest))
    match skipBlanks rest with
    | '}' :: rest => return ([(path, value)], rest)
    | ',' :: rest =>
      let (pairs, rest) ← readPairs fuel depth rest
      return ((path, value) :: pairs, rest)
    | _ => none

end

/-! ## Lines -/

/-- A line that says something. -/
inductive Line
  /-- Names a table, or one of several tables. -/
  | name (several : Bool) (path : List String)
  /-- Gives a path of keys a value. -/
  | assign (path : List String) (value : Document)

/-- Reads the name of a table and the brackets behind it. -/
def readName (cs : List Char) : Option (Line × List Char) :=
  match cs with
  | '[' :: rest => do
    let (path, rest) ← readPath pathLimit rest
    return (.name true path, ← expect ']' (← expect ']' rest))
  | rest => do
    let (path, rest) ← readPath pathLimit rest
    return (.name false path, ← expect ']' rest)

/-- Reads a line up to its end, which is left. -/
def readLine : List Char → Option (Line × List Char)
  | '[' :: rest => readName rest
  | cs => do
    let (path, rest) ← readPath pathLimit cs
    let rest := skipBlanks (← expect '=' rest)
    let (value, rest) ← readValue (2 * rest.length + 2) depthLimit rest
    return (.assign path value, rest)

/-- Reads all lines. Each takes at least one character, so the length of the text is enough fuel. -/
def readLines : (fuel : Nat) → List Char → Option (List Line)
  | 0, _ => none
  | fuel + 1, cs =>
    match skipBlanks cs with
    | [] => some []
    | cs =>
      match endLine cs with
      | some rest => readLines fuel rest
      | none => do
        let (line, rest) ← readLine cs
        return line :: (← readLines fuel (← endLine rest))

end RecordSql.Toml
