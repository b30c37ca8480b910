import RecordSql.Statement.Basic
import RecordSql.Text.WordChar

/-!
# Positional statements

Databases take values by position. Each binding claims a place of its name in the text, and the
claimed places become positional markers, so the values are in the order of the markers. A name
counts only where it stands whole, that is, where no character that can continue a name follows it;
a binding whose name has no such place left is dropped.
-/

namespace RecordSql

/-- How a positional marker is written. -/
inductive MarkerStyle
  /-- Every marker is a question mark. -/
  | question
  /-- Markers are numbered from one. -/
  | numbered
  deriving DecidableEq, Repr

/-- The marker at a position, counted from zero. -/
def MarkerStyle.marker : MarkerStyle → Nat → List Char
  | .question, _ => ['?']
  | .numbered, n => '$' :: Nat.toDigits 10 (n + 1)

/-- A place in a text that a binding has taken. -/
structure Claim where
  start : Nat
  length : Nat
  value : Value
  deriving DecidableEq

/-- A statement whose values are given by position. -/
structure Positional where
  sql : String
  values : List Value
  deriving DecidableEq

namespace Positional

/-! ## Places -/

/-- The starts of the occurrences of a name, from left to right and without overlap. The first
    `skip` characters belong to an occurrence already found, and the text starts at `pos`. -/
def occurrences (name : List Char) : (skip pos : Nat) → List Char → List Nat
  | _, _, [] => []
  | skip + 1, pos, _ :: cs => occurrences name skip (pos + 1) cs
  | 0, pos, c :: cs =>
    if name.isPrefixOf (c :: cs) then pos :: occurrences name (name.length - 1) (pos + 1) cs
    else occurrences name 0 (pos + 1) cs

/-- Whether the text goes on with a character that can continue a name. -/
def continuesName (cs : List Char) : Bool :=
  (cs.head?.map Text.isWordChar).getD false

/-- The first place where the name stands whole and that is not taken. An empty name has none. Model
    of `find_placeholder`. -/
def place? (sql name : List Char) (taken : List Nat) : Option Nat :=
  if name = [] then none
  else (occurrences name 0 0 sql).find? fun start =>
    !taken.contains start && !continuesName (sql.drop (start + name.length))

/-- The places that the bindings take, in the order of the bindings. -/
def claims (sql : List Char) : (taken : List Nat) → List Binding → List Claim
  | _, [] => []
  | taken, b :: rest =>
    match place? sql b.name.toList taken with
    | some start => ⟨start, b.name.length, b.value⟩ :: claims sql (start :: taken) rest
    | none => claims sql taken rest

/-! ## Replacement -/

/-- Puts a claim in front of the first one that does not start before it. -/
def insertClaim (c : Claim) : List Claim → List Claim
  | [] => [c]
  | d :: rest => if c.start ≤ d.start then c :: d :: rest else d :: insertClaim c rest

/-- The claims in the order of their places. -/
def sortClaims (cs : List Claim) : List Claim :=
  cs.foldr insertClaim []

/-- Replaces the claimed places by markers, given the text from `cursor` on and the number of
    markers already written. Nothing is returned if a place starts inside the one before it. -/
def replace (style : MarkerStyle) : (n cursor : Nat) → List Claim → List Char → Option (List Char)
  | _, _, [], cs => some cs
  | n, cursor, c :: rest, cs =>
    if c.start < cursor then none
    else do
      let gap := c.start - cursor
      let tail ← replace style (n + 1) (c.start + c.length) rest (cs.drop (gap + c.length))
      return cs.take gap ++ style.marker n ++ tail

end Positional

/-- The statement with positional markers in place of the names that are bound. Nothing is returned
    if two names claim places that overlap. Model of `to_positional`. -/
def Statement.positional? (style : MarkerStyle) (s : Statement) : Option Positional := do
  let claims := Positional.sortClaims (Positional.claims s.sql.toList [] s.bindings)
  let sql ← Positional.replace style 0 0 claims s.sql.toList
  return ⟨String.ofList sql, claims.map Claim.value⟩

end RecordSql
