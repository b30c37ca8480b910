import RecordSql.CommandLine.Option
import RecordSql.Text.ControlSequence

/-!
# Usage errors

The ways in which arguments can be wrong, and what is shown for each. The messages are set for a
terminal, with the words of the user set off from the rest; what is shown is their plain text. So
control sequences in the arguments are not shown either.
-/

namespace RecordSql.CommandLine

/-- The name of the program. -/
def programName : String := "sqlweave"

/-- The version of the program. -/
def programVersion : String := "0.3.0"

/-- What the program does. -/
def programPurpose : String := "Compile record schemas into dialect-specific SQL"

/-- What is wrong with the arguments. -/
inductive UsageError
  | unrecognizedCommand (word : String)
  | unexpectedArgument (argument : String)
  | invalidValue (value : String) (o : Opt) (reason : Option String)
  | valueRequired (o : Opt)
  | unexpectedValue (value : String) (o : Opt)
  | usedTwice (o : Opt)
  | commandRequired
  | argumentsRequired
  deriving DecidableEq, Repr

namespace UsageError

/-- A part of a message that is set off from the rest. -/
def quoted (s : String) : String :=
  "'" ++ Text.emphasised s ++ "'"

/-- The message for wrong arguments. -/
def message : UsageError → String
  | .unrecognizedCommand word => "unrecognized subcommand " ++ quoted word
  | .unexpectedArgument argument => "unexpected argument " ++ quoted argument ++ " found"
  | .invalidValue value o reason =>
    "invalid value " ++ quoted value ++ " for " ++ quoted o.label ++
      (reason.map fun r => ": " ++ r).getD ""
  | .valueRequired o => "a value is required for " ++ quoted o.label ++ " but none was supplied"
  | .unexpectedValue value o =>
    "unexpected value " ++ quoted value ++ " for " ++ quoted o.label ++
      " found; no more were expected"
  | .usedTwice o => "the argument " ++ quoted o.label ++ " cannot be used multiple times"
  | .commandRequired => quoted programName ++ " requires a subcommand but one was not provided"
  | .argumentsRequired => "the following required arguments were not provided:"

/-- Where to look for more. -/
def hint : String :=
  "For more information, try " ++ quoted ("--" ++ Opt.help.long) ++ "."

/-- What is shown for wrong arguments: the message and the hint. A control sequence that the message
    leaves open reaches into the hint. -/
def report (e : UsageError) : String :=
  Text.visible (Text.emphasised "error:" ++ " " ++ e.message ++ "\n\n" ++ hint)

end UsageError

/-- Why the arguments lead to no command. -/
inductive Stop
  | usage (e : UsageError)
  /-- Nothing was said at all. -/
  | nothing
  /-- The user asked for help. -/
  | help
  /-- The user asked for the version. -/
  | version
  deriving DecidableEq, Repr

end RecordSql.CommandLine
