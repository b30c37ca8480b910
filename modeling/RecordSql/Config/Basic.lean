import RecordSql.Dialect.Driver
import RecordSql.Document.Toml.Reader

/-!
# Configuration

The settings that statements are compiled and run with. They come from layers: a file, the
environment and the arguments of a command. A later layer overrides an earlier one setting by
setting, and a dialect that any layer names wins over the one that a URL implies.
-/

namespace RecordSql

/-- The settings. -/
structure Config where
  /-- Where the database is. -/
  url : Option String := none
  /-- The dialect, where it is named. -/
  dialect : Option Dialect := none
  /-- The identity field of inserts that name none. -/
  identity : Option String := none
  deriving DecidableEq, Repr

namespace Config

/-! ## Files -/

/-- The text of a setting, which may be missing. -/
def settingText? : Option Document → Option (Option String)
  | none => some none
  | some d => d.text?.map some

/-- The dialect of a document that is its very name. -/
def dialectOf? (how : Document.Conventions) (d : Document) : Option Dialect := do
  let (name, payload) ← d.case?
  if Document.carriesNothing how payload then Dialect.ofName? name else none

/-- The settings about the database. -/
def ofDatabase? (how : Document.Conventions) (d : Document) :
    Option (Option String × Option Dialect) := do
  match ← d.fields? how ["url", "dialect"] with
  | [url, none] => return (← settingText? url, none)
  | [url, some dialect] => return (← settingText? url, some (← dialectOf? how dialect))
  | _ => none

/-- The settings about the compiler. -/
def ofCompiler? (how : Document.Conventions) (d : Document) : Option (Option String) := do
  match ← d.fields? how ["identity"] with
  | [identity] => settingText? identity
  | _ => none

/-- The settings that a document holds. Every part of it may be missing. -/
def ofDocument? (how : Document.Conventions) (d : Document) : Option Config := do
  match ← d.fields? how ["database", "compiler"] with
  | [database, compiler] =>
    let (url, dialect) ← (database.map (ofDatabase? how)).getD (some (none, none))
    let identity ← (compiler.map (ofCompiler? how)).getD (some none)
    return { url, dialect, identity }
  | _ => none

/-- The settings of the text of a file. Model of `Config::from_toml`. -/
def ofText (text : String) : Except Error Config :=
  match (Toml.read? text).bind (ofDocument? Toml.conventions) with
  | some c => .ok c
  | none => .error .toml

/-! ## Overrides -/

/-- The variable that names the database. -/
def urlVariable : String := "SQLWEAVE_DATABASE_URL"

/-- The variable that names the dialect. -/
def dialectVariable : String := "SQLWEAVE_DIALECT"

/-- The settings with a URL and a dialect in place of theirs, where they are given. -/
def override (c : Config) (url : Option String) (dialect : Option Dialect) : Config :=
  { c with url := url <|> c.url, dialect := dialect <|> c.dialect }

/-- The dialect that a variable names, in any case. -/
def dialectOfVariable (name : String) : Except Error Dialect :=
  match Dialect.ofAnyCase? name with
  | some d => .ok d
  | none => .error (.config (dialectVariable ++ " has unknown dialect '" ++ name ++ "'"))

/-- The settings overridden by the environment. Model of `Config::with_overrides`. -/
def overrideByEnvironment (c : Config) (environment : String → Option String) :
    Except Error Config := do
  let dialect ← match environment dialectVariable with
    | none => pure none
    | some name => some <$> dialectOfVariable name
  return c.override (environment urlVariable) dialect

/-- The dialect that statements are compiled in: the one that is named, else that of the URL, else
    the default one. Model of `Config::dialect`. -/
def effectiveDialect (c : Config) : Dialect :=
  (c.dialect <|> c.url.map Dialect.ofUrl).getD .default

end Config

end RecordSql
