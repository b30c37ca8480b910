import RecordSql.CommandLine.Run

/-!
# The program

The outer layer of the command line: it looks at files and variables, hands them to the library, and
prints what comes back. It has no driver for a database, so a statement can be printed but not run.
-/

namespace RecordSql.Main

/-- The system's number for the failure to read a directory as a file. -/
def directoryCode : UInt32 := 21

/-- The system's number for a name that is too long. -/
def nameTooLongCode : UInt32 := 36

/-- Why a file could not be read. -/
def fileError : IO.Error → FileError
  | .noFileOrDirectory _ _ _ => .missing
  | .inappropriateType _ code _ =>
    if code == directoryCode then .isDirectory else .notDirectory
  | e@(.invalidArgument _ code _) =>
    if code == nameTooLongCode then .nameTooLong else .other (toString e)
  | e => .other (toString e)

/-- Reads the file at a path. -/
def readFile (path : String) : IO (Except FileError String) := do
  try
    let bytes ← IO.FS.readBinFile path
    match String.fromUTF8? bytes with
    | some text => return .ok text
    | none => return .error .notText
  catch e => return .error (fileError e)

/-- The directory that holds the user's settings. -/
def userDirectory : IO (Option String) := do
  match ← IO.getEnv "XDG_CONFIG_HOME" with
  | some directory => if directory.startsWith "/" then return some directory
  | none => pure ()
  return (← IO.getEnv "HOME").map fun home => home ++ "/.config"

/-- The paths that the program can look at. -/
def pathsOf (directory : Option String) (i : CommandLine.Invocation) : List String :=
  Config.localFile :: ((directory.map Config.userFile).toList ++ i.schema.toList)

/-- The variables that the program looks at. -/
def processEnvironment : IO (String → Option String) := do
  let url ← IO.getEnv Config.urlVariable
  let dialect ← IO.getEnv Config.dialectVariable
  return fun name =>
    if name == Config.urlVariable then url
    else if name == Config.dialectVariable then dialect
    else none

/-- What the program finds around it, as far as its arguments let it look. -/
def surroundings (arguments : List String) : IO Surroundings := do
  let environment ← processEnvironment
  let directory ← userDirectory
  let paths := match CommandLine.Invocation.read (environment Config.urlVariable) arguments with
    | .ok i => pathsOf directory i
    | .error _ => []
  let contents ← paths.mapM fun path => return (path, ← readFile path)
  let files : FileReader := fun path =>
    ((contents.find? fun c => c.1 == path).map Prod.snd).getD (.error .missing)
  return ⟨files, environment, directory⟩

end RecordSql.Main

/-- Runs the program on its arguments. -/
def main (arguments : List String) : IO UInt32 := do
  let s ← RecordSql.Main.surroundings arguments
  let outcome := RecordSql.CommandLine.start s RecordSql.Database.absent arguments ()
  for line in outcome.lines do
    IO.println line
  match outcome.report with
  | some report => IO.eprintln report
  | none => pure ()
  return UInt32.ofNat outcome.status
