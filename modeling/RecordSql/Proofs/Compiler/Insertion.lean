import RecordSql.Proofs.Compiler.Templates
import RecordSql.Proofs.Dialect.Quoting

/-!
# Insertions

What an insert does, apart from how it is compiled: the columns that it lists, each with its own
placeholder, and how it reads the new row back, if it does.

* `Compiler.quote_injective`, `Compiler.placeholder_injective`: two columns have neither their entry
  nor their placeholder in common.
* `Insertion.Meets.unique`: what is asked of an insertion determines it.
* `Compiler.meets_insertion`, `Compiler.sql_insert`: the compiler writes the insertion that is asked
  for.
-/

namespace RecordSql

/-! ## Columns are told apart -/

namespace Compiler

theorem quote_injective (c : Compiler) : Function.Injective c.quote :=
  c.quoting.quote_injective

theorem placeholder_injective (c : Compiler) : Function.Injective c.placeholder := by
  intro a b h
  have hname := congrArg String.toList h
  rw [toList_placeholder, toList_placeholder] at hname
  exact Place.name_assigned_inj.mp hname

end Compiler

/-! ## What is asked of an insertion -/

/-- An insert: the columns that it lists, and the field by which it reads the new row back with the
    function that yields this field, if it does. -/
structure Insertion where
  listed : List String
  readBack? : Option (String × ReadBack)

namespace Insertion

/-- The text that reads all columns of the new row back. -/
def readBackText (c : Compiler) (d : Descriptor) : Option (String × ReadBack) → String
  | none => ""
  | some (name, f) =>
    ";SELECT " ++ c.identifierList d.columns ++ " FROM " ++ c.quote d.table ++ " WHERE " ++
      c.quote name ++ " = " ++ f.call ++ ";"

/-- The text of an insert. Each column that it lists has its own placeholder, at the same place. -/
def text (c : Compiler) (d : Descriptor) (i : Insertion) : String :=
  "INSERT INTO " ++ c.quote d.table ++ " (" ++ Compiler.commaSeparated (i.listed.map c.quote) ++
    ") VALUES (" ++ Compiler.commaSeparated (i.listed.map c.placeholder) ++ ")" ++
    readBackText c d i.readBack?

/-- The database assigns the column, or it has an explicit value. -/
def Supplied (identity : Option String) (explicit : Parameters) (column : String) : Prop :=
  identity = some column ∨ column ∈ explicit.names

/-- What is asked of an insertion into the table of a descriptor. -/
structure Meets (i : Insertion) (c : Compiler) (d : Descriptor) (identity : Option String)
    (explicit : Parameters) : Prop where
  /-- The columns are listed in the order of the descriptor. -/
  ordered : i.listed.Sublist d.columns
  /-- A column that is supplied has neither an entry nor a placeholder. -/
  dropped : ∀ column ∈ d.columns, Supplied identity explicit column →
    c.quote column ∉ i.listed.map c.quote ∧ c.placeholder column ∉ i.listed.map c.placeholder
  /-- Any other column is listed, as often as the descriptor has it. -/
  kept : ∀ column ∈ d.columns, ¬ Supplied identity explicit column →
    i.listed.count column = d.columns.count column
  /-- The new row is read back by the identity just where the dialect can do so. -/
  readsBack : ∀ name f, i.readBack? = some (name, f) ↔
    identity = some name ∧ c.dialect.readBack? = some f

end Insertion

/-! ## Compiled insertions -/

/-- The insertion that a compiler writes. -/
def Compiler.insertion (c : Compiler) (d : Descriptor) (identity : Option String)
    (explicit : Parameters) : Insertion where
  listed := insertColumns d identity explicit
  readBack? := identity.bind fun name => c.dialect.readBack?.map fun f => (name, f)

theorem Insertion.not_supplied_iff {identity : Option String} {explicit : Parameters}
    {column : String} : ¬ Supplied identity explicit column ↔
      (some column != identity && !explicit.contains column) = true := by
  rw [Supplied, ← NamedValues.contains_eq_true_iff, eq_comm (a := identity)]
  simp

theorem Compiler.mem_insertColumns {d : Descriptor} {identity : Option String}
    {explicit : Parameters} {column : String} : column ∈ insertColumns d identity explicit ↔
      column ∈ d.columns ∧ ¬ Insertion.Supplied identity explicit column := by
  rw [insertColumns, List.mem_filter, Insertion.not_supplied_iff]

theorem Compiler.count_insertColumns (d : Descriptor) {identity : Option String}
    {explicit : Parameters} {column : String} (h : ¬ Insertion.Supplied identity explicit column) :
    (insertColumns d identity explicit).count column = d.columns.count column :=
  List.count_filter (Insertion.not_supplied_iff.mp h)

section Compiled

variable (c : Compiler) (d : Descriptor) (identity : Option String) (explicit : Parameters)

theorem Compiler.meets_insertion :
    (c.insertion d identity explicit).Meets c d identity explicit where
  ordered := List.filter_sublist
  dropped column _ h := by
    have hlisted : column ∉ insertColumns d identity explicit :=
      fun hmem => (mem_insertColumns.mp hmem).2 h
    rw [List.mem_map_of_injective c.quote_injective,
      List.mem_map_of_injective c.placeholder_injective]
    exact ⟨hlisted, hlisted⟩
  kept _ _ h := count_insertColumns d h
  readsBack name f := by
    simp only [insertion, Option.bind_eq_some_iff, Option.map_eq_some_iff, Prod.mk.injEq]
    constructor
    · rintro ⟨_, hidentity, _, hf, rfl, rfl⟩
      exact ⟨hidentity, hf⟩
    · rintro ⟨hidentity, hf⟩
      exact ⟨name, hidentity, f, hf, rfl, rfl⟩

/-- The compiler writes the insertion with the effective identity. -/
theorem Compiler.sql_insert :
    (c.insert d identity explicit).sql =
      (c.insertion d (effectiveIdentity d identity) explicit).text c d := by
  have hsuffix : ∀ effective, c.insertSuffix d effective =
      Insertion.readBackText c d (c.insertion d effective explicit).readBack? := by
    intro effective
    rw [insertSuffix, insertion]
    cases effective with
    | none => rfl
    | some name =>
      rw [Option.bind_some, Option.bind_some, identitySuffix?]
      cases c.dialect.readBack? <;> rfl
  have hlisted : (c.insertion d (effectiveIdentity d identity) explicit).listed =
      insertColumns d (effectiveIdentity d identity) explicit := rfl
  unfold Compiler.insert Insertion.text
  rw [← hsuffix, hlisted, ← identifierList]

theorem Compiler.readsBack_eq :
    c.readsBack identity = (c.insertion d identity explicit).readBack?.isSome := by
  rw [readsBack, insertion]
  cases identity with
  | none => rfl
  | some name =>
    rw [Option.isSome_some, Bool.true_and, Option.bind_some, Option.isSome_map]

end Compiled

namespace Insertion.Meets

variable {i j : Insertion} {c : Compiler} {d : Descriptor} {identity : Option String}
  {explicit : Parameters}

theorem not_supplied_of_mem (h : i.Meets c d identity explicit) {column : String}
    (hcolumn : column ∈ i.listed) : ¬ Supplied identity explicit column := by
  intro hsupplied
  have hdropped := (h.dropped column (h.ordered.subset hcolumn) hsupplied).1
  exact hdropped (List.mem_map_of_mem hcolumn)

theorem listed_eq (h : i.Meets c d identity explicit) :
    i.listed = Compiler.insertColumns d identity explicit := by
  -- a part of a list, in its order, that has every item as often as the list has is the list
  have hsub : i.listed.Sublist (Compiler.insertColumns d identity explicit) := by
    have hself : i.listed = i.listed.filter fun column =>
        some column != identity && !explicit.contains column :=
      (List.filter_eq_self.mpr fun column hcolumn =>
        not_supplied_iff.mp (h.not_supplied_of_mem hcolumn)).symm
    rw [hself]
    exact h.ordered.filter _
  have hperm : i.listed.Perm (Compiler.insertColumns d identity explicit) := by
    refine hsub.subperm.antisymm (List.subperm_ext_iff.mpr fun column hcolumn => ?_)
    obtain ⟨hmem, hsupplied⟩ := Compiler.mem_insertColumns.mp hcolumn
    rw [h.kept column hmem hsupplied, Compiler.count_insertColumns d hsupplied]
  exact hsub.eq_of_length hperm.length_eq

/-- What is asked of an insertion determines it. -/
theorem unique (hi : i.Meets c d identity explicit) (hj : j.Meets c d identity explicit) :
    i = j := by
  have hlisted : i.listed = j.listed := hi.listed_eq.trans hj.listed_eq.symm
  have hback : i.readBack? = j.readBack? := by
    refine Option.ext fun entry => ?_
    rw [hi.readsBack entry.1 entry.2, hj.readsBack entry.1 entry.2]
  cases i
  cases j
  rw [Insertion.mk.injEq]
  exact ⟨hlisted, hback⟩

end Insertion.Meets

end RecordSql
