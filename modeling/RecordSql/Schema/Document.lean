import RecordSql.Document.Basic
import RecordSql.Schema.Basic

/-!
# Schemas in documents

A schema as a record with the fields `name`, `type_arguments` and `members`, the last two of which
may be missing. A kind is its name, or a table from `generic` to a position.
-/

namespace RecordSql

/-! ## Reading -/

/-- The kind that a document spells. A position is an unsigned word. -/
def MemberKind.ofDocument? (how : Document.Conventions) (d : Document) : Option MemberKind := do
  let (name, payload) ← d.case?
  if name = "generic" then
    let index ← payload
    let n ← index.intBetween? 0 (UInt64.size - 1)
    return .generic n.toNat
  else
    let kind ← plain.find? fun kind => kind.name == name
    if Document.carriesNothing how payload then return kind else none

/-- The type argument that a document spells. -/
def TypeArgument.ofDocument? (how : Document.Conventions) (d : Document) :
    Option TypeArgument := do
  match ← d.fields? how ["name", "kind"] with
  | [some name, some kind] => return ⟨← name.text?, ← MemberKind.ofDocument? how kind⟩
  | _ => none

/-- The member that a document spells. -/
def Member.ofDocument? (how : Document.Conventions) (d : Document) : Option Member := do
  match ← d.fields? how ["name", "kind", "ignored"] with
  | [some name, some kind, ignored] =>
    return ⟨← name.text?, ← MemberKind.ofDocument? how kind,
      ← (ignored.map Document.bool?).getD (some false)⟩
  | _ => none

/-- The items of a list, which is empty where it is missing. -/
def itemsOf? {α : Type} (read : Document → Option α) : Option Document → Option (List α)
  | none => some []
  | some d => do (← d.list?).mapM read

/-- The schema that a document spells. -/
def Schema.ofDocument? (how : Document.Conventions) (d : Document) : Option Schema := do
  match ← d.fields? how ["name", "type_arguments", "members"] with
  | [some name, arguments, members] =>
    return ⟨← name.text?, ← itemsOf? (TypeArgument.ofDocument? how) arguments,
      ← itemsOf? (Member.ofDocument? how) members⟩
  | _ => none

/-! ## Writing -/

/-- The document that spells a kind. -/
def MemberKind.toDocument : MemberKind → Document
  | .generic index => .table [("generic", .int index)]
  | kind => .text kind.name

/-- The document that spells a type argument. -/
def TypeArgument.toDocument (a : TypeArgument) : Document :=
  .table [("name", .text a.name), ("kind", a.kind.toDocument)]

/-- The document that spells a member. -/
def Member.toDocument (m : Member) : Document :=
  .table [("name", .text m.name), ("kind", m.kind.toDocument), ("ignored", .bool m.ignored)]

/-- The document that spells a schema. -/
def Schema.toDocument (s : Schema) : Document :=
  .table [("name", .text s.name),
    ("type_arguments", .list (s.typeArguments.map TypeArgument.toDocument)),
    ("members", .list (s.members.map Member.toDocument))]

end RecordSql
