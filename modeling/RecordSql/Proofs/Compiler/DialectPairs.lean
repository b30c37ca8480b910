import Mathlib.Data.List.Perm.Subperm
import RecordSql.Proofs.Compiler.Templates
import RecordSql.Proofs.Statement.MarkerExchange

/-!
# One statement in two dialects

Compilers of two dialects that quote alike write their statements from the same templates. The
statements differ in the marker and, behind an insertion, in how the new row is read back; what a
database is sent in their place does not differ at all.

* `selectWhere_exchange`, `delete_exchange`, `update_exchange`: statements, the marker exchanged.
* `sql_insert_exchange`: insertions with the marker exchanged in front of their suffixes.
* `sameForm_selectWhere`, `sameForm_delete`, `sameForm_update`: the same positional forms.
* `dialects_exchange`: how the statements of two dialects differ.
-/

namespace RecordSql

open Template

namespace Compiler

variable (d d' : Dialect) (q : Quoting) {D : Descriptor} {values filter : Parameters}

/-! ## Bindings -/

theorem fieldBindings_exchange (h : ∀ field ∈ values.names, IsName field) :
    fieldBindings ⟨d', q⟩ values.entries =
      (fieldBindings ⟨d, q⟩ values.entries).map (Binding.exchange d d') := by
  have hplaces : ∀ p ∈ values.names.map Place.assigned, IsName p.field := List.forall_mem_map.mpr h
  rw [fieldBindings_eq _ _ values.valueOf, fieldBindings_eq _ _ values.valueOf]
  exact (Place.map_exchange_bind d' hplaces _).symm

theorem wherePlaceholders_exchange (h : ∀ field ∈ filter.names, IsName field) :
    (wherePlaceholders ⟨d', q⟩ filter).bindings =
      (wherePlaceholders ⟨d, q⟩ filter).bindings.map (Binding.exchange d d') := by
  have hplaces : ∀ p ∈ filter.names.map Place.compared, IsName p.field := List.forall_mem_map.mpr h
  rw [bindings_wherePlaceholders _ _ filter.valueOf, bindings_wherePlaceholders _ _ filter.valueOf]
  exact (Place.map_exchange_bind d' hplaces _).symm

/-! ## Statements -/

theorem select_exchange (hD : D.HasNames) :
    select ⟨d', q⟩ D = (select ⟨d, q⟩ D).exchange d d' := by
  have hsql : ∀ e : Dialect,
      (select ⟨e, q⟩ D).sql.toList = named e (selectTemplate ⟨d, q⟩ D []) :=
    fun e => (List.append_nil _).symm
  exact Statement.eq_exchange (wellFormed_selectTemplate ⟨d, q⟩ hD (by simp)) (hsql d) (hsql d') rfl

theorem selectWhere_exchange (hD : D.HasNames) (hfilter : ∀ field ∈ filter.names, IsName field) :
    selectWhere ⟨d', q⟩ D filter = (selectWhere ⟨d, q⟩ D filter).exchange d d' :=
  Statement.eq_exchange (wellFormed_selectTemplate ⟨d, q⟩ hD hfilter)
    (toList_sql_selectWhere ⟨d, q⟩ D filter) (toList_sql_selectWhere ⟨d', q⟩ D filter)
    (wherePlaceholders_exchange d d' q hfilter)

theorem delete_exchange (hD : D.HasNames) (hfilter : ∀ field ∈ filter.names, IsName field) :
    delete ⟨d', q⟩ D filter = (delete ⟨d, q⟩ D filter).exchange d d' :=
  Statement.eq_exchange (wellFormed_deleteTemplate ⟨d, q⟩ hD hfilter)
    (toList_sql_delete ⟨d, q⟩ D filter) (toList_sql_delete ⟨d', q⟩ D filter)
    (wherePlaceholders_exchange d d' q hfilter)

theorem isName_of_mem_updateFields (hD : D.HasNames) (h : ∀ field ∈ values.names, IsName field) :
    ∀ field ∈ updateFields D values, IsName field := by
  rw [updateFields]
  split_ifs
  · exact hD.2
  · exact h

theorem update_exchange (hD : D.HasNames) (hvalues : ∀ field ∈ values.names, IsName field)
    (hfilter : ∀ field ∈ filter.names, IsName field) :
    update ⟨d', q⟩ D values filter = (update ⟨d, q⟩ D values filter).exchange d d' := by
  refine Statement.eq_exchange
    (wellFormed_updateTemplate ⟨d, q⟩ hD (isName_of_mem_updateFields hD hvalues) hfilter)
    (toList_sql_update ⟨d, q⟩ D values filter) (toList_sql_update ⟨d', q⟩ D values filter) ?_
  calc fieldBindings ⟨d', q⟩ values.entries ++ (wherePlaceholders ⟨d', q⟩ filter).bindings
    _ = (fieldBindings ⟨d, q⟩ values.entries).map (Binding.exchange d d') ++
          (wherePlaceholders ⟨d, q⟩ filter).bindings.map (Binding.exchange d d') := by
        rw [fieldBindings_exchange d d' q hvalues, wherePlaceholders_exchange d d' q hfilter]
    _ = (update ⟨d, q⟩ D values filter).bindings.map (Binding.exchange d d') :=
        List.map_append.symm

/-- An insertion without what is behind it to read the new row back. -/
def insertBody (c : Compiler) (D : Descriptor) (columns : List String) : String :=
  "INSERT INTO " ++ c.quote D.table ++ " (" ++ c.identifierList columns ++ ") VALUES (" ++
    commaSeparated (columns.map c.placeholder) ++ ")"

theorem toList_insertBody (c : Compiler) (D : Descriptor) (columns : List String) :
    (c.insertBody D columns).toList = named c.dialect (c.insertTemplate D columns none) := by
  have hsuffix : c.insertSuffix D none = "" := rfl
  unfold insertBody
  rw [insertTemplate, named, named_append, named_valuesTemplate c, hsuffix, String.append_empty]
  simp only [named, String.toList_append, List.append_assoc, List.append_nil]

theorem insertBody_exchange (hD : D.HasNames) {columns : List String}
    (hcolumns : ∀ column ∈ columns, IsName column) :
    insertBody ⟨d', q⟩ D columns = d.exchange d' (insertBody ⟨d, q⟩ D columns) :=
  (Dialect.exchange_eq d' (wellFormed_insertTemplate ⟨d, q⟩ hD hcolumns (by simp))
    (toList_insertBody ⟨d, q⟩ D columns) (toList_insertBody ⟨d', q⟩ D columns)).symm

/-- Of an insertion the marker is exchanged up to the suffix, and each dialect has its own suffix
    behind it. -/
theorem sql_insert_exchange (hD : D.HasNames) (identity : Option String) (explicit : Parameters) :
    ∃ body,
      (insert ⟨d, q⟩ D identity explicit).sql =
        body ++ insertSuffix ⟨d, q⟩ D (effectiveIdentity D identity) ∧
      (insert ⟨d', q⟩ D identity explicit).sql =
        d.exchange d' body ++ insertSuffix ⟨d', q⟩ D (effectiveIdentity D identity) := by
  have hcolumns : ∀ column ∈ insertColumns D (effectiveIdentity D identity) explicit,
      IsName column := fun column hcolumn => hD.2 column (List.mem_of_mem_filter hcolumn)
  refine ⟨insertBody ⟨d, q⟩ D (insertColumns D (effectiveIdentity D identity) explicit), rfl, ?_⟩
  rw [← insertBody_exchange d d' q hD hcolumns]
  rfl

/-! ## Positional forms -/

theorem sameForm_selectWhere (hD : D.HasNames) (hfilter : ∀ field ∈ filter.names, IsName field) :
    (selectWhere ⟨d, q⟩ D filter).SameForm (selectWhere ⟨d', q⟩ D filter) :=
  (means_selectWhere ⟨d, q⟩ hD hfilter filter.valueOf).sameForm
    (means_selectWhere ⟨d', q⟩ hD hfilter filter.valueOf)

theorem sameForm_delete (hD : D.HasNames) (hfilter : ∀ field ∈ filter.names, IsName field) :
    (delete ⟨d, q⟩ D filter).SameForm (delete ⟨d', q⟩ D filter) :=
  (means_delete ⟨d, q⟩ hD hfilter filter.valueOf).sameForm
    (means_delete ⟨d', q⟩ hD hfilter filter.valueOf)

/-- There is a binding for every placeholder of an update. -/
def BindsUpdate (c : Compiler) (D : Descriptor) (values filter : Parameters)
    (bindings : List Binding) : Prop :=
  ((updateFields D values).map c.placeholder ++ filter.names.map c.filterPlaceholder).Subperm
    (bindings.map Binding.name)

theorem bindsUpdate_iff {c : Compiler} {bindings : List Binding} :
    c.BindsUpdate D values filter bindings ↔
      ((c.updateTemplate D (updateFields D values) filter.names).places.map
        (Place.name c.dialect)).Subperm (bindings.map fun b => b.name.toList) := by
  have hassigned : Place.name c.dialect ∘ Place.assigned = String.toList ∘ c.placeholder :=
    funext fun field => (c.toList_placeholder field).symm
  have hcompared : Place.name c.dialect ∘ Place.compared = String.toList ∘ c.filterPlaceholder :=
    funext fun field => (c.toList_filterPlaceholder field).symm
  have hinjective : Function.Injective String.toList := fun _ _ => String.toList_injective
  rw [BindsUpdate, ← List.map_subperm_map_iff hinjective, places_updateTemplate]
  simp only [List.map_append, List.map_map, hassigned, hcompared]
  rfl

/-- The update of either dialect, with the values that the compiler binds. -/
theorem sameForm_update (hD : D.HasNames) (hset : values.isEmpty = false)
    (hvalues : ∀ field ∈ values.names, IsName field)
    (hfilter : ∀ field ∈ filter.names, IsName field) :
    (update ⟨d, q⟩ D values filter).SameForm (update ⟨d', q⟩ D values filter) :=
  (means_update ⟨d, q⟩ hD hset hvalues hfilter).sameForm
    (means_update ⟨d', q⟩ hD hset hvalues hfilter)

/-- The update of either dialect, with all its placeholders bound in some order. -/
theorem sameForm_update_of_binds (hD : D.HasNames) (hvalues : ∀ field ∈ values.names, IsName field)
    (hfilter : ∀ field ∈ filter.names, IsName field) {bindings : List Binding}
    (hb : ∀ b ∈ bindings, b.IsPlaceholder d)
    (hbound : BindsUpdate ⟨d, q⟩ D values filter bindings) :
    Statement.SameForm ⟨(update ⟨d, q⟩ D values filter).sql, bindings⟩
      ⟨(update ⟨d', q⟩ D values filter).sql, bindings.map (Binding.exchange d d')⟩ := by
  have hfields := isName_of_mem_updateFields hD hvalues
  have hform := Statement.sameForm_exchange (wellFormed_updateTemplate ⟨d, q⟩ hD hfields hfilter)
    (wellFormed_updateTemplate ⟨d', q⟩ hD hfields hfilter)
    (s := ⟨(update ⟨d, q⟩ D values filter).sql, bindings⟩)
    (toList_sql_update ⟨d, q⟩ D values filter) hb (bindsUpdate_iff.mp hbound)
  have hsql := congrArg Statement.sql (update_exchange d d' q hD hvalues hfilter)
  rw [hsql]
  exact hform

end Compiler

/-- **One statement in two dialects.** For any two dialects and any quoting, if the table, the
    columns and the fields of a filter and of a list of values have names of word characters, then

    - reading, reading by the filter, deleting and updating are one statement, up to the marker: the
      text of the one dialect is that of the other with the marker exchanged, and there are the same
      values, in the same order, bound to the names with the marker exchanged;
    - an insertion is such a text with the suffix of its dialect behind it, and has such bindings;
    - the clause with literals is the same text;
    - in either style of markers, there is one positional form of reading by the filter in both
      dialects, one of deleting, one of updating with the values, and one of the update with any
      bindings among which there is one for each of its placeholders. -/
theorem dialects_exchange (d d' : Dialect) (q : Quoting) {D : Descriptor}
    {values filter : Parameters} (hD : D.HasNames) (hvalues : ∀ field ∈ values.names, IsName field)
    (hfilter : ∀ field ∈ filter.names, IsName field) :
    let c : Compiler := ⟨d, q⟩
    let c' : Compiler := ⟨d', q⟩
    c'.select D = (c.select D).exchange d d' ∧
    c'.selectWhere D filter = (c.selectWhere D filter).exchange d d' ∧
    c'.delete D filter = (c.delete D filter).exchange d d' ∧
    c'.update D values filter = (c.update D values filter).exchange d d' ∧
    (∀ identity : Option String,
      (∃ body,
        (c.insert D identity values).sql =
          body ++ c.insertSuffix D (identity <|> D.identity?.map Field.name) ∧
        (c'.insert D identity values).sql =
          d.exchange d' body ++ c'.insertSuffix D (identity <|> D.identity?.map Field.name)) ∧
      (c'.insert D identity values).bindings =
        (c.insert D identity values).bindings.map (Binding.exchange d d')) ∧
    (∀ filters : Filters, c'.whereLiterals filters = c.whereLiterals filters) ∧
    (c.selectWhere D filter).SameForm (c'.selectWhere D filter) ∧
    (c.delete D filter).SameForm (c'.delete D filter) ∧
    (values.isEmpty = false →
      (c.update D values filter).SameForm (c'.update D values filter)) ∧
    ∀ bindings : List Binding, (∀ b ∈ bindings, b.IsPlaceholder d) →
      c.BindsUpdate D values filter bindings →
        Statement.SameForm ⟨(c.update D values filter).sql, bindings⟩
          ⟨(c'.update D values filter).sql, bindings.map (Binding.exchange d d')⟩ := by
  refine ⟨Compiler.select_exchange d d' q hD, Compiler.selectWhere_exchange d d' q hD hfilter,
    Compiler.delete_exchange d d' q hD hfilter, Compiler.update_exchange d d' q hD hvalues hfilter,
    fun identity => ⟨?_, ?_⟩, fun filters => rfl, Compiler.sameForm_selectWhere d d' q hD hfilter,
    Compiler.sameForm_delete d d' q hD hfilter, fun hset => ?_, fun bindings hb hbound => ?_⟩
  · exact Compiler.sql_insert_exchange d d' q hD identity values
  · exact Compiler.fieldBindings_exchange d d' q hvalues
  · exact Compiler.sameForm_update d d' q hD hset hvalues hfilter
  · exact Compiler.sameForm_update_of_binds d d' q hD hvalues hfilter hb hbound

/-- The marker of the one dialect is a question mark, and a column is named as the placeholder of a
    compared field is. -/
theorem dialects_exchange_twins :
    let c : Compiler := { dialect := .msSql }
    let c' : Compiler := { dialect := .mySql }
    let values : Parameters := .ofList [("pId", .int 7)]
    let filter : Parameters := .ofList [("Id", .int 1)]
    let statement := c.update Schema.twins.descriptor values filter
    let statement' := c'.update Schema.twins.descriptor values filter
    Schema.twins.descriptor.HasNames ∧ (∀ field ∈ values.names, IsName field) ∧
      (∀ field ∈ filter.names, IsName field) ∧ values.isEmpty = false ∧
      statement.sql = "UPDATE T SET pId=@pId WHERE Id=@pId" ∧
      statement' = statement.exchange .msSql .mySql ∧ statement.SameForm statement' := by
  intro c c' values filter statement statement'
  have hvalues : ∀ field ∈ values.names, IsName field :=
    List.forall_mem_singleton.mpr (isName_of_ascii rfl)
  have hfilter : ∀ field ∈ filter.names, IsName field :=
    List.forall_mem_singleton.mpr (isName_of_ascii rfl)
  obtain ⟨-, -, -, hupdate, -, -, -, -, hform, -⟩ :=
    dialects_exchange .msSql .mySql .bare Schema.hasNames_twins hvalues hfilter
  exact ⟨Schema.hasNames_twins, hvalues, hfilter, rfl, by decide +kernel, hupdate, hform rfl⟩

end RecordSql
