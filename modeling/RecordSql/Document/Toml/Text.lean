import RecordSql.Number.Numeral

/-!
# Texts and keys in TOML

A text stands between quotes: double ones with escapes, or single ones without. Three quotes open a
text of several lines, whose first line break is dropped. A key is a bare word or a text of one
line, and a path is a row of keys with points between them.
-/

namespace RecordSql.Toml

/-! ## Characters -/

/-- The characters that may stand between the parts of a line. -/
def isBlank (c : Char) : Bool :=
  c == ' ' || c == '\t'

/-- The text from its first character that is not blank. -/
def skipBlanks (cs : List Char) : List Char :=
  cs.dropWhile isBlank

/-- The characters that texts and comments can hold: all but control characters, of which tabs are
    allowed. -/
def isTextChar (c : Char) : Bool :=
  c == '\t' || (0x20 ≤ c.toNat && c.toNat != 0x7F)

/-- The rest after a line break, if the text starts with one. -/
def dropNewline? : List Char → Option (List Char)
  | '\n' :: cs => some cs
  | '\r' :: '\n' :: cs => some cs
  | _ => none

/-- The rest after a line break, or the text itself. -/
def dropNewline (cs : List Char) : List Char :=
  (dropNewline? cs).getD cs

/-! ## Texts of one line -/

/-- The character of a one-letter escape. -/
def shortEscape? : Char → Option Char
  | 'b' => some '\x08'
  | 't' => some '\t'
  | 'n' => some '\n'
  | 'f' => some '\x0c'
  | 'r' => some '\r'
  | '"' => some '"'
  | '\\' => some '\\'
  | _ => none

/-- The character whose number hexadecimal digits spell. Halves of characters are refused. -/
def numbered? (digits : List Char) : Option Char := do
  let n ← Numeral.numberIn? 16 digits
  if n.isValidChar then return Char.ofNat n else none

/-- Puts a character in front of what was read. -/
def consChar (c : Char) (r : List Char × List Char) : List Char × List Char :=
  (c :: r.1, r.2)

/-- Reads up to the closing double quote. -/
def readEscaped : List Char → Option (List Char × List Char)
  | [] => none
  | '"' :: rest => some ([], rest)
  | '\\' :: 'u' :: a :: b :: c :: d :: rest => do
    let char ← numbered? [a, b, c, d]
    return consChar char (← readEscaped rest)
  | '\\' :: 'U' :: a :: b :: c :: d :: e :: f :: g :: h :: rest => do
    let char ← numbered? [a, b, c, d, e, f, g, h]
    return consChar char (← readEscaped rest)
  | '\\' :: e :: rest => do
    let char ← shortEscape? e
    return consChar char (← readEscaped rest)
  | c :: rest =>
    if isTextChar c ∧ c ≠ '\\' then do return consChar c (← readEscaped rest) else none

/-- Reads up to the closing single quote. -/
def readLiteral : List Char → Option (List Char × List Char)
  | [] => none
  | '\'' :: rest => some ([], rest)
  | c :: rest => if isTextChar c then do return consChar c (← readLiteral rest) else none

/-! ## Texts of several lines -/

/-- What is left after three closing quotes: up to two more of them belong to the text. -/
def closeLines (quote : Char) : List Char → List Char × List Char
  | a :: b :: rest =>
    if a ≠ quote then ([], a :: b :: rest)
    else if b ≠ quote then ([a], b :: rest)
    else ([a, b], rest)
  | [a] => if a = quote then ([a], []) else ([], [a])
  | [] => ([], [])

/-- Whether the line has nothing more on it but blanks, and is not the last. -/
def endsLine (cs : List Char) : Bool :=
  (dropNewline? (skipBlanks cs)).isSome

/-- Reads up to three closing double quotes. A backslash at the end of a line sets `skipping`:
    blanks and line breaks are dropped up to the next other character. -/
def readEscapedLines : (skipping : Bool) → List Char → Option (List Char × List Char)
  | _, [] => none
  | _, '"' :: '"' :: '"' :: rest => some (closeLines '"' rest)
  | skipping, '\r' :: '\n' :: rest =>
    if skipping then readEscapedLines true rest
    else do return consChar '\n' (← readEscapedLines false rest)
  | skipping, '\n' :: rest =>
    if skipping then readEscapedLines true rest
    else do return consChar '\n' (← readEscapedLines false rest)
  | _, '\\' :: 'u' :: a :: b :: c :: d :: rest => do
    let char ← numbered? [a, b, c, d]
    return consChar char (← readEscapedLines false rest)
  | _, '\\' :: 'U' :: a :: b :: c :: d :: e :: f :: g :: h :: rest => do
    let char ← numbered? [a, b, c, d, e, f, g, h]
    return consChar char (← readEscapedLines false rest)
  | _, '\\' :: e :: rest =>
    match shortEscape? e with
    | some char => do return consChar char (← readEscapedLines false rest)
    | none => if endsLine (e :: rest) then readEscapedLines true (e :: rest) else none
  | skipping, c :: rest =>
    if skipping && isBlank c then readEscapedLines true rest
    else if isTextChar c ∧ c ≠ '\\' then do return consChar c (← readEscapedLines false rest)
    else none

/-- Reads up to three closing single quotes. -/
def readLiteralLines : List Char → Option (List Char × List Char)
  | [] => none
  | '\'' :: '\'' :: '\'' :: rest => some (closeLines '\'' rest)
  | '\r' :: '\n' :: rest => do return consChar '\n' (← readLiteralLines rest)
  | '\n' :: rest => do return consChar '\n' (← readLiteralLines rest)
  | c :: rest => if isTextChar c then do return consChar c (← readLiteralLines rest) else none

/-- Reads a text of any form. -/
def readText : List Char → Option (List Char × List Char)
  | '"' :: '"' :: '"' :: rest => readEscapedLines false (dropNewline rest)
  | '\'' :: '\'' :: '\'' :: rest => readLiteralLines (dropNewline rest)
  | '"' :: rest => readEscaped rest
  | '\'' :: rest => readLiteral rest
  | _ => none

/-! ## Keys -/

/-- The characters of a key without quotes. -/
def isBareChar (c : Char) : Bool :=
  c.isAlphanum || c == '_' || c == '-'

/-- Reads one key. -/
def readKey : List Char → Option (String × List Char)
  | '"' :: rest => (readEscaped rest).map fun r => (String.ofList r.1, r.2)
  | '\'' :: rest => (readLiteral rest).map fun r => (String.ofList r.1, r.2)
  | cs =>
    let bare := cs.takeWhile isBareChar
    if bare = [] then none else some (String.ofList bare, cs.drop bare.length)

/-- The greatest number of keys on a path. -/
def pathLimit : Nat := 79

/-- Reads a path of at most `limit` keys, with blanks around each. -/
def readPath : (limit : Nat) → List Char → Option (List String × List Char)
  | 0, _ => none
  | limit + 1, cs => do
    let (key, rest) ← readKey (skipBlanks cs)
    match skipBlanks rest with
    | '.' :: rest => do
      let (keys, rest) ← readPath limit rest
      return (key :: keys, rest)
    | rest => return ([key], rest)

end RecordSql.Toml
