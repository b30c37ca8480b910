import RecordSql.Proofs.CommandLine.Bindings
import RecordSql.Proofs.Compiler.Insertion
import RecordSql.Proofs.Connection.Bindings

/-!
# Insertions by sessions and by the command line

Which columns an insert lists, and whether it reads the new row back, is worked out by the compiler,
by sessions and by the command line, each on its own. Here the three come to the same.

* `names_bindAll_insert`: the names that are bound when the listed columns are.
* `RecordType.insertStatement_eq`: a session binds the columns that the compiler lists.
* `insertions_agree`: what the compiler, a session and the command line insert.
-/

namespace RecordSql

namespace Compiler

variable (c : Compiler)

theorem names_columnBindings (columns : List String) (values : List (String × Value)) :
    (c.columnBindings columns values).map Binding.name = columns.map c.placeholder := by
  rw [columnBindings, List.map_map]
  rfl

theorem names_fieldBindings (explicit : Parameters) :
    (c.fieldBindings explicit.entries).map Binding.name = explicit.names.map c.placeholder := by
  rw [fieldBindings, NamedValues.names, NamedValues.namesOf, List.map_map, List.map_map]
  rfl

/-- The compiler binds the explicit values; behind them come those of the listed columns. -/
theorem names_bindAll_insert (d : Descriptor) (effective identity : Option String)
    (explicit : Parameters) (values : List (String × Value)) :
    ((c.insert d effective explicit).bindAll
        (c.columnBindings (c.insertion d identity explicit).listed values)).bindings.map
          Binding.name =
      (explicit.names ++ (c.insertion d identity explicit).listed).map c.placeholder := by
  rw [Statement.bindAll, List.map_append, names_columnBindings, List.map_append]
  congr 1
  exact c.names_fieldBindings explicit

/-- The descriptor of a schema flags no identity, so that the one that is given is effective. -/
theorem sql_insert_descriptor (s : Schema) (identity : Option String) (explicit : Parameters) :
    (c.insert s.descriptor identity explicit).sql =
      (c.insertion s.descriptor identity explicit).text c s.descriptor := by
  rw [sql_insert, effectiveIdentity_descriptor]

end Compiler

section Session

variable {α : Type} (c : Compiler) (t : RecordType α) (record : α) (identity : Option String)

/-- A session binds the columns that the compiler lists. -/
theorem RecordType.insertStatement_eq :
    t.insertStatement c record identity =
      (c.insert t.schema.descriptor identity .empty).bindAll
        (c.columnBindings (c.insertion t.schema.descriptor identity .empty).listed
          (t.values record)) := by
  have hlisted : (c.insertion t.schema.descriptor identity .empty).listed =
      t.schema.descriptor.columns.filter fun column => some column != identity := by
    simp [Compiler.insertion, Compiler.insertColumns, NamedValues.contains, NamedValues.empty]
  rw [insertStatement, hlisted]

theorem RecordOperation.request_insert :
    (insert record identity).request c t =
      if (c.insertion t.schema.descriptor identity .empty).readBack?.isSome then
        .query (t.insertStatement c record identity)
      else .execute (t.insertStatement c record identity) := by
  rw [request, ← c.readsBack_eq]

end Session

/-- **One insertion, in three places.** In every dialect and any quoting,

    - the compiler writes, for a descriptor, an identity and explicit values, an insertion that
      meets what is asked of one with the identity, or else the first field that is flagged: each
      column that is not supplied is listed with its own placeholder, in the order of the
      descriptor, and the new row is read back where there is such an identity and the dialect can
      do so;
    - a statement that a session hands to its connection to insert a record writes the insertion
      without explicit values, binds the placeholders of its columns, in order, and is a query just
      if it reads the new row back;
    - the command line writes the insertion with its own identity, or else the configured one, and
      with its preset values, binds the placeholders of the presets and then those of the columns,
      and expects rows just if it reads the new row back. -/
theorem insertions_agree (c : Compiler) :
    (∀ (d : Descriptor) (identity : Option String) (explicit : Parameters), ∃ i : Insertion,
      i.Meets c d (identity <|> d.identity?.map Field.name) explicit ∧
        (c.insert d identity explicit).sql = i.text c d) ∧
    (∀ {σ α : Type} (connection : Connection σ) (s : σ) (t : RecordType α) (record : α)
      (identity : Option String) (before : ConnectionState) (request : Request),
      .run before request ∈
          Operation.contacts connection s [.records c t (.insert record identity)] →
        ∃ i : Insertion,
          i.Meets c t.schema.descriptor identity .empty ∧
          request.statement.sql = i.text c t.schema.descriptor ∧
          request.statement.bindings.map Binding.name = i.listed.map c.placeholder ∧
          (request = .query request.statement ↔ i.readBack?.isSome)) ∧
    ∀ (schema : Schema) (configured identity : Option String)
      (values preset : List (String × Value)),
      ∃ (statement : Statement) (returnsRows : Bool) (i : Insertion),
        (CommandLine.Job.insert identity values preset).statement? c schema.descriptor configured =
          some (statement, returnsRows) ∧
        i.Meets c schema.descriptor (identity <|> configured) (.ofList preset) ∧
        statement.sql = i.text c schema.descriptor ∧
        statement.bindings.map Binding.name =
          ((NamedValues.ofList preset).names ++ i.listed).map c.placeholder ∧
        returnsRows = i.readBack?.isSome := by
  refine ⟨?_, ?_, ?_⟩
  · intro d identity explicit
    exact ⟨_, c.meets_insertion d _ explicit, c.sql_insert d identity explicit⟩
  · intro _ _ connection s t record identity before request hrun
    obtain rfl := Operation.request_of_run_mem _ hrun
    have hrequest : Operation.request (.records c t (.insert record identity)) = _ :=
      RecordOperation.request_insert c t record identity
    have hsql := c.sql_insert_descriptor t.schema identity .empty
    have hnames := c.names_bindAll_insert t.schema.descriptor identity identity .empty
      (t.values record)
    rw [← t.insertStatement_eq] at hnames
    refine ⟨_, c.meets_insertion t.schema.descriptor identity .empty, ?_⟩
    rw [hrequest]
    split_ifs with hback
    · exact ⟨hsql, hnames, iff_of_true rfl hback⟩
    · exact ⟨hsql, hnames, iff_of_false (by simp) hback⟩
  · intro schema configured identity values preset
    exact ⟨_, _, _, CommandLine.Job.statement?_insert c schema.descriptor configured identity values
      preset, c.meets_insertion schema.descriptor _ _,
      c.sql_insert_descriptor schema (identity <|> configured) (.ofList preset),
      c.names_bindAll_insert schema.descriptor _ _ (.ofList preset) values, c.readsBack_eq ..⟩

/-- A record whose key the database assigns is inserted and read back. -/
theorem insertions_agree_twins :
    let c : Compiler := { dialect := .msSql }
    let statement := RecordType.twins.insertStatement c (1, 7) (some "Id")
    .run .opened (.query statement) ∈
        Operation.contacts (Recorded.connection "sqlx::any::AnyConnection" (.ok .opened))
          { state := .opened } [.records c .twins (.insert (1, 7) (some "Id"))] ∧
      statement.sql =
        "INSERT INTO T (pId) VALUES (@pId);SELECT Id, pId FROM T WHERE Id = SCOPE_IDENTITY();" ∧
      ∃ i : Insertion,
        i.Meets c Schema.twins.descriptor (some "Id") .empty ∧
        statement.sql = i.text c Schema.twins.descriptor ∧
        i.listed.map c.placeholder = ["@pId"] ∧ i.readBack?.isSome := by
  intro c statement
  have hrun : .run .opened (.query statement) ∈
      Operation.contacts (Recorded.connection "sqlx::any::AnyConnection" (.ok .opened))
        { state := .opened } [.records c .twins (.insert (1, 7) (some "Id"))] :=
    List.mem_singleton.mpr rfl
  obtain ⟨i, hmeets, hsql, hnames, hback⟩ := (insertions_agree c).2.1 _ _ _ _ _ _ _ hrun
  exact ⟨hrun, by decide +kernel, i, hmeets, hsql, hnames.symm.trans rfl, hback.mp rfl⟩

end RecordSql
