import RecordSql.Number.Numeral
import RecordSql.Schema.Basic
import RecordSql.Text.Basic

/-!
# Types of columns

The type that a member is declared with gives the member its kind. Where the type is bound to a type
parameter, its name without namespace and parameters names the table.
-/

namespace RecordSql

/-- A declared type. -/
inductive ColumnType
  /-- A type of its own, with the namespaces that it stands in. -/
  | named (scope : List String) (name : String) (kind : MemberKind)
  /-- The values of a type and null. -/
  | optional (item : ColumnType)
  | list (item : ColumnType)
  /-- A run of items whose length the type leaves open. -/
  | slice (item : ColumnType)
  | array (item : ColumnType) (length : Nat)
  /-- A reference to a value of the type. -/
  | boxed (item : ColumnType)
  deriving Repr

namespace ColumnType

/-- The kind of a member of the type. -/
def kind : ColumnType → MemberKind
  | .named _ _ kind => kind
  | .optional item => item.kind.nullable
  | .list _ | .slice _ => .sequence
  | .array _ _ => .array
  | .boxed _ => .object

/-- Whether values of the type have a size of their own, as the type of a member must. -/
def isSized : ColumnType → Bool
  | .named _ name _ => name != "str"
  | .slice _ => false
  | _ => true

/-! ## Names -/

/-- The name of the type with all namespaces and parameters. -/
def qualifiedName : ColumnType → String
  | .named scope name _ => "::".intercalate (scope ++ [name])
  | .optional item => "option::Option<" ++ item.qualifiedName ++ ">"
  | .list item => "list::Vec<" ++ item.qualifiedName ++ ">"
  | .slice item => "[" ++ item.qualifiedName ++ "]"
  | .array item length => "[" ++ item.qualifiedName ++ "; " ++ toString length ++ "]"
  | .boxed item => "boxed::Box<" ++ item.qualifiedName ++ ">"

/-- A qualified name up to its first parameter, without namespaces. Model of `short_type_name`. -/
def unqualified (name : String) : String :=
  let base := Text.firstSegment (· == '<') name.toList
  String.ofList (Text.lastSegment (· == ':') base)

/-- The name that the type gives to a table. -/
def shortName (t : ColumnType) : String :=
  unqualified t.qualifiedName

/-- The type bound to a type parameter. -/
def argument (t : ColumnType) : TypeArgument :=
  ⟨t.shortName, t.kind⟩

/-- A member of the type. -/
def member (t : ColumnType) (name : String) : Member :=
  { name, kind := t.kind }

/-! ## Spelling -/

/-- A type that stands in no namespace. -/
def builtin (name : String) (kind : FieldKind) : ColumnType :=
  .named [] name (.scalar kind)

/-- The names of the number types. -/
def numberNames : List String :=
  ["i8", "i16", "i32", "i64", "i128", "isize", "u8", "u16", "u32", "u64", "u128", "usize", "f32",
   "f64"]

/-- The types that every schema can use, by their spelling. -/
def standard : List (String × ColumnType) :=
  [("String", .named ["text"] "String" (.scalar .string)),
   ("str", builtin "str" .string),
   ("bool", builtin "bool" .boolean),
   ("char", builtin "char" .otherScalar),
   ("NaiveDateTime", .named ["calendar"] "NaiveDateTime" (.scalar .dateTime)),
   ("NaiveDate", .named ["calendar"] "NaiveDate" (.scalar .dateTime)),
   ("DateTime<Utc>", .named ["calendar"] "DateTime<calendar::Utc>" (.scalar .dateTime))] ++
  numberNames.map fun name => (name, builtin name .numeric)

/-- What stands between an opening and a closing text. -/
def between? (opening closing : String) (cs : List Char) : Option (List Char) :=
  let inner := (cs.drop opening.length).take (cs.length - opening.length - closing.length)
  if cs = opening.toList ++ inner ++ closing.toList then some inner else none

/-- The item and the length of an array, spelled with a semicolon between them. -/
def splitLength? (cs : List Char) : Option (List Char × Nat) := do
  let digits := (cs.reverse.takeWhile Char.isDigit).reverse
  let item ← between? "" "; " (cs.take (cs.length - digits.length))
  return (item, ← Numeral.natural? digits)

/-- The type of a spelling, given the types of simple spellings. Each level of nesting takes at
    least two characters, so the length of the spelling is enough fuel. -/
def read? (known : List (String × ColumnType)) : Nat → List Char → Option ColumnType
  | 0, _ => none
  | fuel + 1, cs =>
    match known.find? fun e => e.1.toList == cs with
    | some e => some e.2
    | none =>
      match between? "Option<" ">" cs, between? "Vec<" ">" cs, between? "Box<" ">" cs,
          between? "[" "]" cs with
      | some inner, _, _, _ => (read? known fuel inner).map .optional
      | _, some inner, _, _ => (read? known fuel inner).map .list
      | _, _, some inner, _ => (read? known fuel inner).map .boxed
      | _, _, _, some inner =>
        match splitLength? inner with
        | some (item, length) => (read? known fuel item).map (.array · length)
        | none => (read? known fuel inner).map .slice
      | _, _, _, _ => none

/-- The type of a spelling, with further types in use beside the standard ones. -/
def ofSpelling? (further : List (String × ColumnType)) (s : String) : Option ColumnType :=
  read? (standard ++ further) (s.length + 1) s.toList

end ColumnType

end RecordSql
