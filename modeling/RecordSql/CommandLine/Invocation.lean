import RecordSql.CommandLine.Arguments

/-!
# Invocations

What the arguments of the program ask for. What is said after the command wins over what is said
before it, and both win over the environment.
-/

namespace RecordSql.CommandLine

/-- A command and what it is told. -/
inductive Job
  | describe
  | select (filter : List (String × Value)) (inline : Bool)
  | insert (identity : Option String) (values preset : List (String × Value))
  | update (set values filter : List (String × Value))
  | delete (filter : List (String × Value))
  | dialects

/-- What the program is asked for. -/
structure Invocation where
  job : Job
  schema : Option String
  dialect : Option Dialect
  databaseUrl : Option String
  execute : Bool
  format : RowFormat
  verbose : Bool

/-- The command together with what the options after its name tell it. -/
def CommandName.toJob (g : Given) : CommandName → Job
  | .describe => .describe
  | .select => .select g.filter g.inline
  | .insert => .insert g.identity g.values g.preset
  | .update => .update g.set g.values g.filter
  | .delete => .delete g.filter
  | .dialects => .dialects

namespace Invocation

/-- What the options before and after a command ask for. -/
def ofGiven (url : Option String) (name : CommandName) (before after : Given) : Invocation where
  job := name.toJob after
  schema := after.schema <|> before.schema
  dialect := after.dialect <|> before.dialect
  databaseUrl := after.databaseUrl <|> before.databaseUrl <|> url
  execute := after.execute || before.execute
  format := (after.format <|> before.format).getD .table
  verbose := after.verbose || before.verbose

/-- Refuses a deletion that does not say which rows it is about. -/
def requireFilter (name : CommandName) (after : Given) : Except Stop Unit :=
  if name = .delete ∧ after.filter.isEmpty then .error (.usage .argumentsRequired) else .ok ()

/-- What arguments ask for, given the URL of the environment. -/
def read (url : Option String) (arguments : List String) : Except Stop Invocation := do
  let (before, next) ← Reading.beforeCommand {} arguments
  match next with
  | none =>
    let before ← before.settle
    if before.given.used.isEmpty && url.isNone then throw .nothing
    else throw (.usage .commandRequired)
  | some (name, rest) =>
    let after ← Reading.afterCommand (Opt.afterCommand name) {} rest
    let after ← after.settle
    requireFilter name after.given
    let before ← before.settle
    return ofGiven url name before.given after.given

end Invocation

end RecordSql.CommandLine
