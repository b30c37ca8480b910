/-!
# Options

The options of the command line and of its commands: how each is spelled, and whether it takes a
value.
-/

namespace RecordSql.CommandLine

/-- What the program can be told to do. -/
inductive CommandName
  | describe
  | select
  | insert
  | update
  | delete
  | dialects
  deriving DecidableEq, Repr

namespace CommandName

/-- The commands in the order in which they are listed. -/
def all : List CommandName := [.describe, .select, .insert, .update, .delete, .dialects]

/-- The word for a command. -/
def word : CommandName → String
  | .describe => "describe"
  | .select => "select"
  | .insert => "insert"
  | .update => "update"
  | .delete => "delete"
  | .dialects => "dialects"

/-- The command that a word stands for. -/
def ofWord? (word : String) : Option CommandName :=
  all.find? fun c => c.word == word

end CommandName

/-- An option of the program or of a command. -/
inductive Opt
  | schema
  | dialect
  | databaseUrl
  | execute
  | format
  | verbose
  | help
  | version
  | filter
  | inline
  | identity
  | value
  | preset
  | set
  deriving DecidableEq, Repr

namespace Opt

/-- The name of an option after two dashes. -/
def long : Opt → String
  | .schema => "schema"
  | .dialect => "dialect"
  | .databaseUrl => "database-url"
  | .execute => "execute"
  | .format => "format"
  | .verbose => "verbose"
  | .help => "help"
  | .version => "version"
  | .filter => "where"
  | .inline => "inline"
  | .identity => "identity"
  | .value => "value"
  | .preset => "preset"
  | .set => "set"

/-- The letter of an option after one dash, if it has one. -/
def short? : Opt → Option Char
  | .schema => some 's'
  | .dialect => some 'd'
  | .execute => some 'e'
  | .format => some 'f'
  | .verbose => some 'v'
  | .help => some 'h'
  | .version => some 'V'
  | .filter => some 'w'
  | _ => none

/-- What the value of an option is called, if it takes one. -/
def valueName? : Opt → Option String
  | .schema => some "SCHEMA"
  | .dialect => some "DIALECT"
  | .databaseUrl => some "DATABASE_URL"
  | .format => some "FORMAT"
  | .filter => some "FILTER"
  | .identity => some "IDENTITY"
  | .value => some "VALUES"
  | .preset => some "PRESET"
  | .set => some "SET"
  | _ => none

/-- Whether an option takes a value. -/
def takesValue (o : Opt) : Bool :=
  o.valueName?.isSome

/-- Whether an option can be given more than once. -/
def repeats : Opt → Bool
  | .filter | .value | .preset | .set => true
  | _ => false

/-- An option as messages name it. -/
def label (o : Opt) : String :=
  match o.valueName? with
  | some name => "--" ++ o.long ++ " <" ++ name ++ ">"
  | none => "--" ++ o.long

/-- The options that can stand before the command and after it. -/
def everywhere : List Opt :=
  [.schema, .dialect, .databaseUrl, .execute, .format, .verbose, .help]

/-- The options that can stand before the command. -/
def beforeCommand : List Opt :=
  everywhere ++ [.version]

/-- The options that can stand after a command. -/
def afterCommand : CommandName → List Opt
  | .describe | .dialects => everywhere
  | .select => everywhere ++ [.filter, .inline]
  | .insert => everywhere ++ [.identity, .value, .preset]
  | .update => everywhere ++ [.set, .value, .filter]
  | .delete => everywhere ++ [.filter]

end Opt

end RecordSql.CommandLine
