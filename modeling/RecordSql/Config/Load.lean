import RecordSql.Config.Basic
import RecordSql.Config.Files
import RecordSql.Schema.Basic
import RecordSql.Schema.Document

/-!
# Loading

Where settings and schemas are read from. A file of settings in the working directory hides the one
in the user's directory, and settings of the environment override those of either file.
-/

namespace RecordSql

/-- What a program finds around it. -/
structure Surroundings where
  files : FileReader
  environment : String → Option String
  /-- The directory that holds the user's settings. -/
  userDirectory : Option String

/-- The name of the file of settings in the working directory. -/
def Config.localFile : String := "sqlweave.toml"

/-- The name of the file of settings in the user's directory. -/
def Config.userFile (directory : String) : String :=
  directory ++ "/sqlweave/config.toml"

/-- Reads the settings of a file. Model of `Config::from_file`. -/
def Config.ofFile (files : FileReader) (path : String) : Except Error Config := do
  Config.ofText (← (files path).mapError .file)

/-- The file of settings that is in use, if there is one. Model of `Config::locate`. -/
def Config.locate? (s : Surroundings) : Option String :=
  if s.files.finds localFile then some localFile
  else (s.userDirectory.map userFile).filter s.files.finds

/-- Loads the settings of the file in use and of the environment. Model of `Config::load`. -/
def Config.load (s : Surroundings) : Except Error Config := do
  let c ← match Config.locate? s with
    | some path => Config.ofFile s.files path
    | none => pure {}
  c.overrideByEnvironment s.environment

/-- The schema of the text of a file. Model of `EntitySchema::from_toml`. -/
def Schema.ofText (text : String) : Except Error Schema :=
  match (Toml.read? text).bind (Schema.ofDocument? Toml.conventions) with
  | some s => .ok s
  | none => .error .toml

/-- Loads the schema of a file. Model of `EntitySchema::load`. -/
def Schema.load (files : FileReader) (path : String) : Except Error Schema := do
  Schema.ofText (← (files path).mapError .file)

end RecordSql
