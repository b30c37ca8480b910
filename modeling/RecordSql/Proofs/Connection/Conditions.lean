import RecordSql.Proofs.Connection.Bindings

/-!
# Conditions of statements

A filter is given as pairs of a field and a value, in which fields can come again. Whatever the
filter, the statement is the one without conditions and one condition for each field behind it, so a
statement about some rows never becomes one about all of them.

* `wherePlaceholders_ofList`: the clause of the pairs that a filter is collected from.
* `request_update_eq`: the statement that updates a record, with its key as the clause.
* `clause_of_filter`: the conditions of all statements that have a filter.
-/

namespace RecordSql

attribute [ext] Statement

theorem Statement.append_empty (s : Statement) : s ++ (⟨"", []⟩ : Statement) = s :=
  Statement.ext (String.append_empty ..) (List.append_nil _)

namespace Compiler

/-! ## Clauses -/

/-- Compares each field with a value, in order, and is empty if there are no fields. -/
def clause (c : Compiler) (fields : List String) (value : String → Value) : Statement where
  sql :=
    if fields = [] then ""
    else
      " WHERE " ++
        " AND ".intercalate
          (fields.map fun field => c.quote field ++ "=" ++ c.filterPlaceholder field)
  bindings := fields.map fun field => ⟨c.filterPlaceholder field, value field⟩

theorem sql_clause_eq_empty_iff {c : Compiler} {fields : List String} {value : String → Value} :
    (c.clause fields value).sql = "" ↔ fields = [] := by
  rw [clause]
  split_ifs with h
  · simp [h]
  · simp [h]

/-- Leaving out repeated fields leaves no clause empty. -/
theorem sql_clause_eraseDups_eq_empty_iff {c : Compiler} {fields : List String}
    {value : String → Value} : (c.clause fields.eraseDups value).sql = "" ↔ fields = [] := by
  rw [sql_clause_eq_empty_iff]
  cases fields with
  | nil => simp
  | cons field fields => simp [List.eraseDups_cons]

theorem clause_congr {c : Compiler} {fields : List String} {value value' : String → Value}
    (h : ∀ field ∈ fields, value field = value' field) :
    c.clause fields value = c.clause fields value' := by
  refine Statement.ext rfl (List.map_congr_left fun field hfield => ?_)
  rw [h field hfield]

/-- The compiled clause compares the names of the filter with their values. -/
theorem wherePlaceholders_eq (c : Compiler) (filter : Parameters) :
    c.wherePlaceholders filter = c.clause filter.names filter.valueOf := by
  refine Statement.ext ?_ ?_
  · show whereClause (filter.names.map c.placeholderCondition) = _
    rw [whereClause, clause]
    cases filter.names with
    | nil => rfl
    | cons field rest => rfl
  · rw [c.bindings_wherePlaceholders filter filter.valueOf, List.map_map]
    rfl

theorem wherePlaceholders_ofList (c : Compiler) (pairs : List (String × Value)) :
    c.wherePlaceholders (.ofList pairs) =
      c.clause (pairs.map Prod.fst).eraseDups (NamedValues.lastOf pairs) := by
  rw [wherePlaceholders_eq, NamedValues.names_ofList]
  exact clause_congr fun field _ => NamedValues.valueOf_ofList pairs field

theorem wherePlaceholders_keyFilter (c : Compiler) (values : List (String × Value))
    (key : List String) :
    c.wherePlaceholders (RecordType.keyFilter values key) =
      c.clause key.eraseDups (Value.firstOf values) := by
  rw [wherePlaceholders_eq, names_keyFilter]
  exact clause_congr fun field hfield => valueOf_keyFilter values (List.mem_eraseDups.mp hfield)

/-! ## Statements without conditions -/

variable (c : Compiler) (d : Descriptor) (values filter : Parameters)

theorem append_wherePlaceholders_empty (s : Statement) : s ++ c.wherePlaceholders .empty = s :=
  s.append_empty

theorem selectWhere_eq :
    c.selectWhere d filter = c.selectWhere d .empty ++ c.wherePlaceholders filter := by
  rw [selectWhere, selectWhere, append_wherePlaceholders_empty]

theorem delete_eq : c.delete d filter = c.delete d .empty ++ c.wherePlaceholders filter := by
  rw [delete, delete, append_wherePlaceholders_empty]

theorem update_eq :
    c.update d values filter = c.update d values .empty ++ c.wherePlaceholders filter := by
  rw [update, update, append_wherePlaceholders_empty]

end Compiler

/-! ## Updates of a record -/

section Records

variable {σ α : Type} (c : Compiler) (t : RecordType α) (record : α) (key : List String)

/-- Updates every column of every record. -/
def RecordType.updateEvery : Statement where
  sql := (c.update t.schema.descriptor .empty .empty).sql
  bindings := c.columnBindings t.schema.descriptor.columns (t.values record)

theorem RecordType.updateStatement_eq :
    t.updateStatement c record key =
      t.updateEvery c record ++ c.clause key.eraseDups (Value.firstOf (t.values record)) := by
  rw [← c.wherePlaceholders_keyFilter, updateStatement]
  refine Statement.ext ?_ rfl
  show (c.update _ .empty _).sql = _
  rw [c.update_eq]
  rfl

theorem RecordType.sql_updateStatement_eq_iff :
    (t.updateStatement c record key).sql = (t.updateEvery c record).sql ↔ key = [] := by
  have hsql : (t.updateStatement c record key).sql = (t.updateEvery c record).sql ++
      (c.clause key.eraseDups (Value.firstOf (t.values record))).sql := by
    rw [updateStatement_eq]
    rfl
  rw [hsql, String.append_eq_left_iff, Compiler.sql_clause_eraseDups_eq_empty_iff]

end Records

/-- **No condition is lost.** For every descriptor, dialect and quoting, every list of values to be
    set, and every list of pairs that a filter is collected from,

    - the statements that read, delete and update by the filter are those without a filter and a
      clause behind them, text behind text and bindings behind bindings;
    - the clause has one condition for each field that the pairs have, in the order in which the
      fields first come, with the last value that they give it, and is empty just if there are no
      pairs.

    A session that updates a record by a list of fields runs no other statement than the one that
    updates every record with such a clause, one condition for each field of the list; it is about
    every record just if the list is empty. -/
theorem clause_of_filter (c : Compiler) :
    (∀ (d : Descriptor) (values : Parameters) (pairs : List (String × Value)),
      let clause := c.clause (pairs.map Prod.fst).eraseDups (NamedValues.lastOf pairs)
      c.selectWhere d (.ofList pairs) = c.selectWhere d .empty ++ clause ∧
        c.delete d (.ofList pairs) = c.delete d .empty ++ clause ∧
        c.update d values (.ofList pairs) = c.update d values .empty ++ clause ∧
        (clause.sql = "" ↔ pairs = [])) ∧
    ∀ {σ α : Type} (connection : Connection σ) (s : σ) (t : RecordType α) (record : α)
      (key : List String) (before : ConnectionState) (request : Request),
      .run before request ∈
          Operation.contacts connection s [.records c t (.update record key)] →
        request = .execute (t.updateEvery c record ++
          c.clause key.eraseDups (Value.firstOf (t.values record))) ∧
        (request.statement.sql = (t.updateEvery c record).sql ↔ key = []) := by
  refine ⟨fun d values pairs => ?_, ?_⟩
  · rw [← c.wherePlaceholders_ofList]
    refine ⟨c.selectWhere_eq d _, c.delete_eq d _, c.update_eq d values _, ?_⟩
    rw [c.wherePlaceholders_ofList, Compiler.sql_clause_eraseDups_eq_empty_iff, List.map_eq_nil_iff]
  · intro σ α connection s t record key before request hrun
    obtain rfl := Operation.request_of_run_mem connection hrun
    exact ⟨congrArg Request.execute (t.updateStatement_eq c record key),
      t.sql_updateStatement_eq_iff c record key⟩

/-- A field that comes again is compared once, with its last value, and a key that is given twice
    makes one condition. -/
theorem clause_of_filter_twins :
    let c : Compiler := {}
    let statement := RecordType.twins.updateStatement c (1, 7) ["Id", "Id"]
    (c.delete Schema.twins.descriptor (.ofList [("Id", .int 1), ("pId", .int 2), ("Id", .int 3)])) =
        ⟨"DELETE FROM T WHERE Id=@pId AND pId=@ppId", [⟨"@pId", .int 3⟩, ⟨"@ppId", .int 2⟩]⟩ ∧
      .run .opened (.execute statement) ∈
        Operation.contacts (Recorded.connection "sqlx::any::AnyConnection" (.ok .opened))
          { state := .opened } [.records c .twins (.update (1, 7) ["Id", "Id"])] ∧
      statement = ⟨"UPDATE T SET Id=@Id, pId=@pId WHERE Id=@pId",
        [⟨"@Id", .int 1⟩, ⟨"@pId", .int 7⟩, ⟨"@pId", .int 1⟩]⟩ := by
  intro c statement
  have hrun : .run .opened (.execute statement) ∈
      Operation.contacts (Recorded.connection "sqlx::any::AnyConnection" (.ok .opened))
        { state := .opened } [.records c .twins (.update (1, 7) ["Id", "Id"])] :=
    List.mem_singleton.mpr rfl
  have hclause := clause_of_filter c
  refine ⟨?_, hrun, ?_⟩
  · refine (hclause.1 Schema.twins.descriptor .empty _).2.1.trans ?_
    rfl
  · refine (Request.execute.inj (hclause.2 _ _ _ _ _ _ _ hrun).1).trans ?_
    rfl

end RecordSql
