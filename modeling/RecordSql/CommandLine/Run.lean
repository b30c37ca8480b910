import RecordSql.CommandLine.Invocation
import RecordSql.CommandLine.Report
import RecordSql.Config.Load
import RecordSql.Connection.Session
import RecordSql.Database.Link

/-!
# Running

From the arguments to what is printed. The program only looks at its surroundings and, if it is told
to run a statement, makes calls to a database; everything else is a function of these.
-/

namespace RecordSql.CommandLine

/-! ## Statements -/

/-- The statement of a command, and whether rows are to be expected. Commands that do not build a
    statement have none. Model of the match on commands in `run`. -/
def Job.statement? (c : Compiler) (d : Descriptor) (configured : Option String) :
    Job → Option (Statement × Bool)
  | .describe | .dialects => none
  | .select filter true => some (c.selectLiterals d (.ofList filter), true)
  | .select filter false => some (c.selectWhere d (.ofList filter), true)
  | .insert identity values preset =>
    let identity := identity <|> configured
    let preset := NamedValues.ofList preset
    let columns := d.columns.filter fun column =>
      !(some column == identity || preset.contains column)
    some ((c.insert d identity preset).bindAll (c.columnBindings columns values),
      c.readsBack identity)
  | .update set values filter =>
    let statement := c.update d (.ofList set) (.ofList filter)
    let bindings := if set.isEmpty then c.columnBindings d.columns values else []
    some (statement.bindAll bindings, false)
  | .delete filter => some (c.delete d (.ofList filter), false)

/-! ## Programs -/

/-- Why a program ends early. -/
inductive Abort
  /-- A failure that is reported. -/
  | failed (report : String)
  /-- The statement cannot be sent, see `Failure.overlap`. -/
  | overlap
  /-- The rows have no table, see `Table.maxWidth`. -/
  | tooWide
  deriving DecidableEq, Repr

/-- What a program has printed, and the database that it calls. -/
structure Console (δ : Type) where
  lines : List String := []
  database : δ

/-- A program that prints and calls a database. -/
abbrev Program (δ α : Type) : Type :=
  ExceptT Abort (StateM (Console δ)) α

namespace Program

variable {δ η α : Type}

/-- Prints lines. -/
def print (lines : List String) : Program δ Unit :=
  modify fun console => { console with lines := console.lines ++ lines }

/-- Ends with a report. -/
def fail (report : String) : Program δ α :=
  throw (.failed report)

/-- What a report says about an error: its message, and once more the cause of an error about a
    file. -/
def describeError : Error → String
  | .file e => (Error.file e).message ++ ": " ++ e.message
  | e => e.message

/-- The result, or the end of the program with a report that starts with the given text. -/
def orFail (start : String) : Except Error α → Program δ α
  | .ok a => return a
  | .error e => fail (start ++ describeError e)

/-- Performs an operation of a link to the program's database. -/
def perform (a : Action (Link δ η) α) (link : Link Unit η) : Program δ (α × Link Unit η) := do
  let (outcome, after) := a.run { link with database := (← get).database }
  modify fun console => { console with database := after.database }
  match outcome with
  | .ok x => return (x, { after with database := () })
  | .error (.error e) => fail (describeError e)
  | .error .overlap => throw .overlap

end Program

open Program

variable {δ η : Type}

/-- Runs a statement on the database and prints what comes of it. -/
def runStatement (db : Database δ η) (url : String) (format : RowFormat) (statement : Statement)
    (returnsRows : Bool) : Program δ Unit := do
  let connection := Link.connection db url
  let command : Command := { statement }
  let link : Link Unit η := { database := () }
  let link ← if returnsRows then do
      let (rows, link) ← perform (command.query connection) link
      match Report.rows? format rows with
      | some lines => print lines
      | none => throw .tooWide
      pure link
    else do
      let (affected, link) ← perform (command.execute connection) link
      print ["✓ " ++ toString affected ++ " rows affected"]
      pure link
  let _ ← perform (Link.close db) link

/-- Prints a statement, with a hint where nothing says which database it is for. -/
def printStatement (config : Config) (verbose : Bool) (statement : Statement) : Program δ Unit := do
  print (Report.statement statement)
  if config.url.isNone && verbose then
    print ["", "⚠ No database URL. Use --database-url or set SQLWEAVE_DATABASE_URL"]

/-- The URL of the database that a statement is run on. -/
def databaseUrl (config : Config) (verbose : Bool) : Program δ String :=
  match config.url with
  | none =>
    fail "--execute needs a database URL. Use --database-url or set SQLWEAVE_DATABASE_URL"
  | some url => do
    if verbose then print ["Connecting to: " ++ url]
    return url

/-- The settings that an invocation runs with. -/
def settings (s : Surroundings) (i : Invocation) : Except Error Config := do
  return (← Config.load s).override i.databaseUrl i.dialect

/-- Does what a command asks for about a schema. -/
def runOnSchema (db : Database δ η) (i : Invocation) (config : Config) (schema : Schema) :
    Program δ Unit := do
  let compiler : Compiler := { dialect := config.effectiveDialect }
  if i.verbose then print ["Dialect: " ++ compiler.dialect.name]
  match i.job.statement? compiler schema.descriptor config.identity with
  | none => print (Report.describe schema)
  | some (statement, returnsRows) =>
    if i.execute then
      let url ← databaseUrl config i.verbose
      runStatement db url i.format statement returnsRows
    else printStatement config i.verbose statement

/-- Does what an invocation asks for. Model of `run`. -/
def run (s : Surroundings) (db : Database δ η) (i : Invocation) : Program δ Unit := do
  match i.job with
  | .dialects => print Report.dialects
  | _ =>
    let config ← orFail "Failed to load configuration: " (settings s i)
    match i.schema with
    | none => fail "No schema given. Use --schema <FILE>"
    | some path =>
      let schema ← orFail ("Failed to read schema " ++ path ++ ": ") (Schema.load s.files path)
      runOnSchema db i config schema

/-! ## Outcomes -/

/-- What a run of the program leaves behind. -/
structure Outcome (δ : Type) where
  status : Nat
  /-- The lines printed as the program's output. -/
  lines : List String
  /-- What is reported as an error, if anything is. -/
  report : Option String
  database : δ

/-- The lines of the help. -/
def helpLines : List String :=
  [programPurpose, "", "Commands:"] ++ CommandName.all.map fun c => "  " ++ c.word

/-- The outcome of arguments that lead to no command. -/
def Stop.outcome (database : δ) : Stop → Outcome δ
  | .usage e => ⟨2, [], some e.report, database⟩
  | .nothing => ⟨2, [], some ("\n".intercalate helpLines), database⟩
  | .help => ⟨0, helpLines, none, database⟩
  | .version => ⟨0, [programName ++ " " ++ programVersion], none, database⟩

/-- The outcome of a run. -/
def outcomeOf : Except Abort Unit × Console δ → Outcome δ
  | (.ok _, console) => ⟨0, console.lines, none, console.database⟩
  | (.error (.failed report), console) =>
    ⟨1, console.lines, some ("Error: " ++ report), console.database⟩
  | (.error .overlap, console) | (.error .tooWide, console) =>
    ⟨101, console.lines, none, console.database⟩

/-- Runs the program with arguments. Model of `main`. -/
def start (s : Surroundings) (db : Database δ η) (arguments : List String) (database : δ) :
    Outcome δ :=
  match Invocation.read (s.environment Config.urlVariable) arguments with
  | .error stop => stop.outcome database
  | .ok i => outcomeOf (StateT.run (ExceptT.run (run s db i)) { database })

end RecordSql.CommandLine
