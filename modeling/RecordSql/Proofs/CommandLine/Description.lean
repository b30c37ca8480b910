import Mathlib.Data.List.Forall2
import RecordSql.CommandLine.Run
import RecordSql.Proofs.Schema.Fields

/-!
# Descriptions of schemas

The description of a schema looks for the field of every member by its position. It comes to the
same as looking at the member: each has its line, and the line says whether it is stored.

* `describeMember_of_getElem?`: the line about a member, by the member alone.
* `markedSkipped_memberLine_iff`: the mark of a line is read off its end, whatever stands before it.
* `count_newline_memberLine`: a line goes on behind a newline only where a text in it does.
* `fields_of_schema`: which members are stored, and that the description tells.
-/

namespace RecordSql

open Text

namespace CommandLine.Report

/-! ## Lines about members -/

/-- What stands in front of the kind in a line about a member. -/
def memberStart (ordinal : Nat) (name : String) : String :=
  padLeft 4 (toString ordinal) ++ " " ++ padRight 20 name ++ " "

/-- The line ends with the mark of a member without a field. -/
def MarkedSkipped (line : String) : Prop :=
  " skipped".toList <:+ line.toList

theorem memberLine_eq (ordinal : Nat) (name kind note : String) :
    memberLine ordinal name kind note =
      memberStart ordinal name ++ (padRight 18 kind ++ (" " ++ note)) := by
  simp only [memberLine, memberStart, String.append_assoc]

/-- The mark can be read off the end of a line, whatever stands before it. -/
theorem markedSkipped_memberLine_iff {ordinal : Nat} {name kind note : String}
    (h : note ∈ ["", "ignored", "skipped"]) :
    MarkedSkipped (memberLine ordinal name kind note) ↔ note = "skipped" := by
  have hline : (memberLine ordinal name kind note).toList =
      (memberStart ordinal name ++ padRight 18 kind).toList ++ (" " ++ note).toList := by
    rw [memberLine_eq, ← String.append_assoc, String.toList_append]
  rw [MarkedSkipped, hline, ← List.reverse_prefix, List.reverse_append]
  generalize (memberStart ordinal name ++ padRight 18 kind).toList.reverse = front
  rcases List.mem_cons.mp h with rfl | h
  · simp
  rcases List.mem_cons.mp h with rfl | h
  · simp
  · obtain rfl := List.mem_singleton.mp h
    simp

theorem count_newline_padRight (width : Nat) (s : String) :
    (padRight width s).toList.count '\n' = s.toList.count '\n' := by
  simp [padRight, List.count_replicate]

theorem count_newline_padLeft (width : Nat) (s : String) :
    (padLeft width s).toList.count '\n' = s.toList.count '\n' := by
  simp [padLeft, List.count_replicate]

theorem count_newline_toDigits (n : Nat) : (Nat.toDigits 10 n).count '\n' = 0 := by
  refine List.count_eq_zero.mpr fun hmem => ?_
  exact absurd (Nat.isDigit_of_mem_toDigits (by decide) (by decide) hmem) (by decide)

theorem count_newline_title (kind : MemberKind) : kind.title.toList.count '\n' = 0 := by
  cases kind with
  | scalar kind => cases kind <;> decide
  | generic index => simp [MemberKind.title, count_newline_toDigits]
  | object | interface | array | sequence => decide

/-- A line is broken where a text in it is. -/
theorem count_newline_memberLine (ordinal : Nat) (name kind note : String) :
    (memberLine ordinal name kind note).toList.count '\n' =
      name.toList.count '\n' + kind.toList.count '\n' + note.toList.count '\n' := by
  simp [memberLine, count_newline_padLeft, count_newline_padRight, count_newline_toDigits,
    Nat.add_assoc]

/-! ## Descriptions -/

/-- The line about a member, by the member alone. -/
theorem describeMember_of_getElem? {s : Schema} {m : Member} {i : Nat}
    (h : s.members[i]? = some m) :
    describeMember s.descriptor m i =
      match m.kind.resolve s.typeArguments with
      | some kind => memberLine i m.name kind.title (if m.ignored then "ignored" else "")
      | none => memberLine i m.name m.kind.title "skipped" := by
  rw [describeMember, Schema.find?_ordinal_of_getElem? h, Schema.field?]
  cases m.kind.resolve s.typeArguments <;> rfl

/-- The line about a member at a position: it starts with the position and the name, it is marked
    just if the member has no field, and it goes on behind a newline only where the name does. -/
structure IsLine (s : Schema) (m : Member) (i : Nat) (line : String) : Prop where
  starts : (memberStart i m.name).toList <+: line.toList
  marked : MarkedSkipped line ↔ ∀ f ∈ s.descriptor.fields, f.ordinal ≠ i
  newlines : line.toList.count '\n' = m.name.toList.count '\n'

theorem isLine_memberLine {s : Schema} {m : Member} {i : Nat} {kind note : String}
    (hkind : kind.toList.count '\n' = 0) (hnote : note ∈ ["", "ignored", "skipped"])
    (hskipped : note = "skipped" ↔ ∀ f ∈ s.descriptor.fields, f.ordinal ≠ i) :
    IsLine s m i (memberLine i m.name kind note) where
  starts := by
    rw [memberLine_eq, String.toList_append]
    exact List.prefix_append ..
  marked := (markedSkipped_memberLine_iff hnote).trans hskipped
  newlines := by
    have hnotes : ∀ note ∈ ["", "ignored", "skipped"], note.toList.count '\n' = 0 := by decide
    rw [count_newline_memberLine, hkind, hnotes note hnote, Nat.add_zero]

theorem isLine_describeMember {s : Schema} {m : Member} {i : Nat} (h : s.members[i]? = some m) :
    IsLine s m i (describeMember s.descriptor m i) := by
  have hfield : s.field? i m = none ↔ ∀ f ∈ s.descriptor.fields, f.ordinal ≠ i := by
    rw [← Schema.find?_ordinal_of_getElem? h, List.find?_eq_none]
    simp only [beq_iff_eq, ne_eq]
  rw [describeMember_of_getElem? h]
  cases hkind : m.kind.resolve s.typeArguments with
  | none =>
    have hnone : s.field? i m = none := by rw [Schema.field?, hkind, Option.map_none]
    exact isLine_memberLine (count_newline_title _) (by simp) (iff_of_true rfl (hfield.mp hnone))
  | some kind =>
    have hsome : s.field? i m ≠ none := by simp [Schema.field?, hkind]
    refine isLine_memberLine (count_newline_title (.scalar kind)) ?_
      (iff_of_false ?_ (mt hfield.mpr hsome)) <;> cases m.ignored <;> decide

/-- The description is a heading of four lines and then the lines about the members, in order. -/
theorem exists_describe (s : Schema) :
    ∃ heading lines, describe s = heading ++ lines ∧ heading.length = 4 ∧
      List.Forall₂ (fun e line => IsLine s e.1 e.2 line) s.members.zipIdx lines := by
  refine ⟨_, _, rfl, rfl, ?_⟩
  rw [List.forall₂_map_right_iff, List.forall₂_same]
  exact fun e he => isLine_describeMember (List.mem_zipIdx_iff_getElem?.mp he)

end CommandLine.Report

namespace CommandLine

variable {δ η : Type}

/-- To describe a schema is to print its description; nothing can fail, and the database is left
    alone. -/
theorem runOnSchema_describe (db : Database δ η) (i : Invocation) (config : Config) (s : Schema)
    (database : δ) :
    outcomeOf (StateT.run (ExceptT.run
        (runOnSchema db { i with job := .describe } config s)) { database }) =
      ⟨0, (if i.verbose then ["Dialect: " ++ config.effectiveDialect.name] else []) ++
        Report.describe s, none, database⟩ := by
  obtain ⟨-, -, -, -, -, -, verbose⟩ := i
  cases verbose <;> rfl

end CommandLine

/-- **What is stored of a schema.** For every schema and every sequence of names that are flagged as
    the identity, one after the other,

    - the fields are in the order of their positions, and they are, for each member whose kind is a
      scalar or stands for a type argument that is one, a field at the member's position with its
      name, its mark as ignored and that kind;
    - there is a field at a position just if there is such a member at it;
    - the columns are the names of these members that are not ignored, in order;
    - the flags are those of the last name, the identity is the first field of that name, and
      nothing else about the descriptor has changed;
    - the description of the schema has, behind its heading, one line for each member, in order,
      with its position and its name, which is marked as skipped just if there is no field at its
      position and goes on behind a newline only where the name does; this is what the command line
      prints. -/
theorem fields_of_schema (s : Schema) (names : List String) :
    let d := s.descriptor.flag names
    (d.fields.Pairwise fun f g => f.ordinal < g.ordinal) ∧
    (∀ f, f ∈ d.fields ↔
      (∃ m, s.members[f.ordinal]? = some m ∧ f.Stores s.typeArguments m) ∧
        f.identity = (some f.name == names.getLast?)) ∧
    (∀ i, (∃ f ∈ d.fields, f.ordinal = i) ↔
      ∃ m kind, s.members[i]? = some m ∧ m.kind.StoredAs s.typeArguments kind) ∧
    d.columns = (s.members.filter (·.IsColumn s.typeArguments)).map Member.name ∧
    d.table = s.tableName ∧
    d.fields.map Field.unflagged = s.descriptor.fields ∧
    d.identity? = (d.fields.find? fun f => some f.name == names.getLast?) ∧
    (∃ heading lines, CommandLine.Report.describe s = heading ++ lines ∧ heading.length = 4 ∧
      List.Forall₂ (fun e line => CommandLine.Report.IsLine s e.1 e.2 line)
        s.members.zipIdx lines) ∧
    ∀ {δ η : Type} (db : Database δ η) (i : CommandLine.Invocation) (config : Config)
      (database : δ),
      CommandLine.outcomeOf (StateT.run (ExceptT.run
          (CommandLine.runOnSchema db { i with job := .describe } config s)) { database }) =
        ⟨0, (if i.verbose then ["Dialect: " ++ config.effectiveDialect.name] else []) ++
          CommandLine.Report.describe s, none, database⟩ := by
  refine ⟨s.pairwise_ordinal_flag names, fun f => s.mem_fields_flag_iff names,
    fun i => s.exists_mem_fields_flag_iff names, s.columns_flag names,
    s.descriptor.table_flag names, s.map_unflagged_flag names, s.identity?_flag names,
    CommandLine.Report.exists_describe s, fun db i config database => ?_⟩
  exact CommandLine.runOnSchema_describe db i config s database

end RecordSql
