import RecordSql.Error
import RecordSql.Text.Basic

/-!
# Dialects

The families of databases that statements are compiled for, and what sets each apart: the character
that marks a placeholder, and the function that reads a freshly inserted identity back. How
identifiers are quoted is chosen apart from the dialect.
-/

namespace RecordSql

/-- A family of databases. -/
inductive Dialect
  | msSql
  | mySql
  | oracle
  /-- Any other database. -/
  | default
  deriving DecidableEq, Repr

/-- The function that yields the identity of the row that was inserted last. -/
inductive ReadBack
  | scopeIdentity
  | lastInsertId
  deriving DecidableEq, Repr

/-- The call of the function, as it stands in a statement. Model of `IdentityFetch::function`. -/
def ReadBack.call : ReadBack → String
  | .scopeIdentity => "SCOPE_IDENTITY()"
  | .lastInsertId => "LAST_INSERT_ID()"

namespace Dialect

/-- The dialects in the order in which they are listed. -/
def all : List Dialect := [.msSql, .mySql, .oracle, .default]

/-- The name of a dialect. Model of `Dialect::as_str`. -/
def name : Dialect → String
  | .msSql => "mssql"
  | .mySql => "mysql"
  | .oracle => "oracle"
  | .default => "default"

/-- The character in front of a placeholder's name. Model of the markers of `PROFILES`. -/
def marker : Dialect → Char
  | .msSql | .default => '@'
  | .mySql => '?'
  | .oracle => ':'

/-- How an inserted row is read back, where the dialect can do so. Model of the identities of
    `PROFILES`. -/
def readBack? : Dialect → Option ReadBack
  | .msSql => some .scopeIdentity
  | .mySql => some .lastInsertId
  | .oracle | .default => none

/-! ## Names -/

/-- The dialect of this very name. -/
def ofName? (name : String) : Option Dialect :=
  all.find? fun d => d.name == name

/-- The dialect whose name this is up to the case of its letters. -/
def ofAnyCase? (name : String) : Option Dialect :=
  all.find? fun d => Text.equalFold d.name name

/-- The dialect that a user names; any other name is refused. Model of `Dialect::from_str`. -/
def parse (name : String) : Except Error Dialect :=
  match ofAnyCase? name with
  | some d => .ok d
  | none =>
    .error (.config
      ("Unknown dialect '" ++ name ++ "'. Expected: mssql, mysql, oracle, or default"))

end Dialect

/-! ## Quoted identifiers

An identifier can stand between quotes, so that it may hold any characters; the closing quote is
doubled inside. Bare identifiers are written as they are. -/

/-- How identifiers are quoted. -/
inductive Quoting
  /-- Not at all. -/
  | bare
  | brackets
  | backticks
  | doubleQuotes
  deriving DecidableEq, Repr

namespace Quoting

/-- The opening and the closing quote. -/
def quotes? : Quoting → Option (Char × Char)
  | .bare => none
  | .brackets => some ('[', ']')
  | .backticks => some ('\x60', '\x60')
  | .doubleQuotes => some ('"', '"')

/-- A text in which each `closing` is written twice. -/
def double (closing : Char) (cs : List Char) : List Char :=
  cs.flatMap fun c => if c = closing then [c, c] else [c]

/-- An identifier as it stands in a statement. Model of `DialectProfile::quote`. -/
def quote (q : Quoting) (identifier : String) : String :=
  match q.quotes? with
  | none => identifier
  | some (opening, closing) =>
    String.ofList (opening :: (double closing identifier.toList ++ [closing]))

end Quoting

end RecordSql
