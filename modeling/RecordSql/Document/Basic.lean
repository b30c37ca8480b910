import RecordSql.Number.Binary64

/-!
# Documents

The tree of values that a JSON or a TOML text spells, and the ways in which a record can be given in
one: as a table of its fields or as a list of them in order.
-/

namespace RecordSql

/-- The tree of values that a structured text spells. -/
inductive Document
  | null
  | bool (b : Bool)
  | int (n : Int)
  | float (x : Binary64)
  | text (s : String)
  /-- A date, a time of day or both. -/
  | calendar
  /-- Well formed but without a value: a number beyond all range, or a text with half a character.
      It may stand only where it is skipped. -/
  | unreadable
  | list (items : List Document)
  | table (entries : List (String × Document))

/-- What the languages of documents disagree on when a document is read as a typed value. -/
structure Document.Conventions where
  /-- What may stand after the name of a case that carries nothing. -/
  isNothing : Document → Bool
  /-- Whether items after the last field are skipped where a record is given as a list. -/
  skipsExtraItems : Bool

namespace Document

/-- The entries with the given key. -/
def entriesNamed (key : String) (entries : List (String × Document)) : List Document :=
  (entries.filter fun e => e.1 == key).map Prod.snd

/-- The entry with the given key, absent or present once; a repeated key is refused. -/
def uniqueEntry? (key : String) (entries : List (String × Document)) :
    Option (Option Document) :=
  match entriesNamed key entries with
  | [] => some none
  | [d] => some (some d)
  | _ => none

/-- The fields of a record, in the order of their names, each present or absent. Entries with other
    keys are skipped. A calendar value counts as a table without fields. -/
def fields? (how : Conventions) (names : List String) : Document → Option (List (Option Document))
  | .table entries => names.mapM fun name => uniqueEntry? name entries
  | .list items =>
    if names.length < items.length ∧ !how.skipsExtraItems then none
    else some ((List.range names.length).map fun i => items[i]?)
  | .calendar => some (names.map fun _ => none)
  | _ => none

/-- The name of a case and what stands after it; a bare name has nothing after it. -/
def case? : Document → Option (String × Option Document)
  | .text name => some (name, none)
  | .table [(name, payload)] => some (name, some payload)
  | _ => none

/-- Whether what stands after the name of a case is nothing. -/
def carriesNothing (how : Conventions) : Option Document → Bool
  | none => true
  | some payload => how.isNothing payload

/-- The text of a document that is a text. -/
def text? : Document → Option String
  | .text s => some s
  | _ => none

/-- The truth value of a document that is one. -/
def bool? : Document → Option Bool
  | .bool b => some b
  | _ => none

/-- The items of a document that is a list. -/
def list? : Document → Option (List Document)
  | .list items => some items
  | _ => none

/-- The integer between `lo` and `hi` that a document is. -/
def intBetween? (lo hi : Int) : Document → Option Int
  | .int n => if lo ≤ n ∧ n ≤ hi then some n else none
  | _ => none

end Document

end RecordSql
