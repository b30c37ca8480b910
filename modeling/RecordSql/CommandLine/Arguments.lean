import RecordSql.CommandLine.Usage
import RecordSql.Dialect.Basic
import RecordSql.Text.Basic
import RecordSql.Value.Loose

/-!
# Arguments

The options that stand before the command, and those that stand after it, are read in the same way.
A value can be attached to its option, or be the argument after it. In the latter case it is looked
at only when the next option is met or the arguments end, so another fault may be reported first.
-/

namespace RecordSql.CommandLine

/-- How rows are shown. -/
inductive RowFormat
  | table
  | json
  deriving DecidableEq, Repr

/-- What options have said. -/
structure Given where
  schema : Option String := none
  dialect : Option Dialect := none
  databaseUrl : Option String := none
  execute : Bool := false
  format : Option RowFormat := none
  verbose : Bool := false
  filter : List (String × Value) := []
  inline : Bool := false
  identity : Option String := none
  values : List (String × Value) := []
  preset : List (String × Value) := []
  set : List (String × Value) := []
  /-- The options that have said it. -/
  used : List Opt := []

/-! ## Values -/

/-- The name and the value that a text spells: what stands before its first equals sign and after
    it. Model of `parse_pair`. -/
def readPair (s : String) : Except String (String × Value) :=
  let name := Text.firstSegment (· == '=') s.toList
  match s.toList.drop name.length with
  | [] => .error ("expected FIELD=VALUE, got '" ++ s ++ "'")
  | _ :: value =>
    if name = [] then .error ("missing field name in '" ++ s ++ "'")
    else .ok (String.ofList name, .ofLooseText (String.ofList value))

/-- The format that a word stands for. -/
def RowFormat.ofWord? : String → Option RowFormat
  | "table" => some .table
  | "json" => some .json
  | _ => none

/-- The fault of a value that an option does not take. -/
def invalid {α : Type} (o : Opt) (value : String) (reason : Option String) : Except Stop α :=
  .error (.usage (.invalidValue value o reason))

/-- The pair that the value of an option spells. -/
def pairOf (o : Opt) (value : String) : Except Stop (String × Value) :=
  match readPair value with
  | .ok p => .ok p
  | .error reason => invalid o value (some reason)

/-- A value that must not be empty. -/
def nonEmpty (o : Opt) (value : String) : Except Stop String :=
  if value.isEmpty then .error (.usage (.valueRequired o)) else .ok value

/-- Takes in an option and its value, which is empty if it takes none. -/
def Given.accept (g : Given) (o : Opt) (value : String) : Except Stop Given := do
  if g.used.contains o && !o.repeats then throw (.usage (.usedTwice o))
  let g := { g with used := g.used ++ [o] }
  match o with
  | .schema => return { g with schema := some (← nonEmpty o value) }
  | .dialect =>
    match Dialect.parse value with
    | .ok d => return { g with dialect := some d }
    | .error e => invalid o value (some e.message)
  | .databaseUrl => return { g with databaseUrl := some value }
  | .execute => return { g with execute := true }
  | .format =>
    match RowFormat.ofWord? (← nonEmpty o value) with
    | some f => return { g with format := some f }
    | none => invalid o value none
  | .verbose => return { g with verbose := true }
  | .help => throw .help
  | .version => throw .version
  | .filter => return { g with filter := g.filter ++ [← pairOf o value] }
  | .inline => return { g with inline := true }
  | .identity => return { g with identity := some value }
  | .value => return { g with values := g.values ++ [← pairOf o value] }
  | .preset => return { g with preset := g.preset ++ [← pairOf o value] }
  | .set => return { g with set := g.set ++ [← pairOf o value] }

/-! ## Options -/

/-- What has been read of the arguments on one side of the command. -/
structure Reading where
  given : Given := {}
  /-- The last option, if its value is still to be looked at or even to come. -/
  pending : Option (Opt × Option String) := none

namespace Reading

/-- Looks at the value of the last option. -/
def settle (r : Reading) : Except Stop Reading := do
  match r.pending with
  | none => return r
  | some (o, none) => throw (.usage (.valueRequired o))
  | some (o, some value) => return ⟨← r.given.accept o value, none⟩

/-- Takes in an option and the value that is attached to it, if there is one. -/
def option (r : Reading) (o : Opt) (attached : Option String) : Except Stop Reading := do
  match o.takesValue, attached with
  | true, some value =>
    let r ← r.settle
    return { r with given := ← r.given.accept o value }
  | true, none =>
    let r ← r.settle
    return { r with pending := some (o, none) }
  | false, none =>
    let r ← r.settle
    return { r with given := ← r.given.accept o "" }
  | false, some value => throw (.usage (.unexpectedValue value o))

/-- Takes in an option by its name, to which a value is attached by an equals sign. -/
def long (options : List Opt) (r : Reading) (cs : List Char) : Except Stop Reading :=
  let name := String.ofList (Text.firstSegment (· == '=') cs)
  let attached := match cs.drop name.length with
    | [] => none
    | _ :: value => some (String.ofList value)
  match options.find? fun o => o.long == name with
  | some o => r.option o attached
  | none => .error (.usage (.unexpectedArgument ("--" ++ name)))

/-- The value attached to a letter, after an optional equals sign. -/
def attachedToLetter : List Char → Option String
  | [] => none
  | '=' :: cs => some (String.ofList cs)
  | cs => some (String.ofList cs)

/-- Takes in options by their letters. The first one that takes a value takes what is left of the
    letters as its value. -/
def letters (options : List Opt) (r : Reading) : List Char → Except Stop Reading
  | [] => .ok r
  | c :: cs =>
    match options.find? fun o => o.short? == some c with
    | some o =>
      if o.takesValue then r.option o (attachedToLetter cs)
      else do letters options (← r.option o none) cs
    | none => .error (.usage (.unexpectedArgument (String.ofList ['-', c])))

/-- Whether the value of the last option is still to come. -/
def awaitsValue (r : Reading) : Bool :=
  match r.pending with
  | some (_, none) => true
  | _ => false

/-- Takes in the value of the last option, if it is still to come. -/
def value? (r : Reading) (value : String) : Option Reading :=
  match r.pending with
  | some (o, none) => some { r with pending := some (o, some value) }
  | _ => none

/-- Takes in an argument that is neither a command nor two dashes. -/
def argument (options : List Opt) (fault : String → UsageError) (r : Reading) (s : String) :
    Except Stop Reading :=
  match s.toList with
  | '-' :: '-' :: cs => r.long options cs
  | '-' :: c :: cs => r.letters options (c :: cs)
  | _ =>
    match r.value? s with
    | some r => .ok r
    | none => .error (.usage (fault s))

/-- Reads the arguments after a command. After two dashes there can be no more. -/
def afterCommand (options : List Opt) : Reading → List String → Except Stop Reading
  | r, [] => .ok r
  | r, "--" :: rest =>
    match rest with
    | [] => .ok r
    | s :: _ => .error (.usage (.unexpectedArgument s))
  | r, s :: rest => do
    afterCommand options (← r.argument options .unexpectedArgument s) rest

/-- The fault of the first argument after two dashes and before any command. -/
def afterDashes (s : String) : UsageError :=
  if (CommandName.ofWord? s).isSome || s == "help" then .unexpectedArgument s
  else .unrecognizedCommand s

/-- The result of asking for help on some words. -/
def helpOn : List String → Stop
  | [] => .help
  | s :: rest =>
    if s == "help" || (CommandName.ofWord? s).isSome then
      match rest with
      | [] => .help
      | t :: _ => .usage (.unrecognizedCommand t)
    else .usage (.unrecognizedCommand s)

/-- Reads the arguments up to the command, and gives the command and the arguments after it, if
    there is a command. A word that a value is awaited for is no command. -/
def beforeCommand : Reading → List String →
    Except Stop (Reading × Option (CommandName × List String))
  | r, [] => .ok (r, none)
  | r, s :: rest =>
    match CommandName.ofWord? s, r.awaitsValue with
    | some c, false => .ok (r, some (c, rest))
    | _, awaited =>
      if s == "help" && !awaited then .error (helpOn rest)
      else if s == "--" then
        match rest with
        | [] => .ok (r, none)
        | t :: _ => .error (.usage (afterDashes t))
      else do
        beforeCommand (← r.argument Opt.beforeCommand .unrecognizedCommand s) rest

end Reading

end RecordSql.CommandLine
