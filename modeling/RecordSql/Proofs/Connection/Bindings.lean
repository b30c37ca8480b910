import RecordSql.Proofs.Compiler.Templates
import RecordSql.Proofs.Connection.Contacts

/-!
# Bindings of sessions

What a session's operations mean by the statements that they run. The text, the order of the
bindings and the search for the places are made by different parts of the library; here they come
together.

* `RecordOperation.template?`, `RecordOperation.meant`: the text of an operation's statement and the
  values that are meant for its places.
* `means_of_contacts`: every statement that a session runs means what its operation does.
-/

namespace RecordSql

open Template

/-! ## What operations mean -/

namespace RecordOperation

variable {α : Type}

/-- The template of an operation's statement, if values are bound to it. -/
def template? (c : Compiler) (t : RecordType α) : RecordOperation α → Option Template
  | getAll | getLiterals _ => none
  | getWhere parameters | getSingle parameters =>
    some (c.selectTemplate t.schema.descriptor parameters.names)
  | insert _ identity =>
    some (c.insertTemplate t.schema.descriptor
      (Compiler.insertColumns t.schema.descriptor identity .empty) identity)
  | update record key =>
    some (c.updateTemplate t.schema.descriptor t.schema.descriptor.columns
      (RecordType.keyFilter (t.values record) key).names)
  | updateAll values => some (c.updateTemplate t.schema.descriptor values.names [])
  | delete parameters => some (c.deleteTemplate t.schema.descriptor parameters.names)

/-- The value that an operation means for a place: a field is given the record's value or the
    supplied one, and it is compared with the key's value or the filter's. -/
def meant (t : RecordType α) : RecordOperation α → Place → Value
  | getAll | getLiterals _ => fun _ => .null
  | insert record _ | update record _ =>
    Place.value (Value.firstOf (t.values record)) (Value.firstOf (t.values record))
  | updateAll values => Place.value values.valueOf NamedValues.empty.valueOf
  | getWhere parameters | getSingle parameters | delete parameters =>
    Place.value parameters.valueOf parameters.valueOf

/-- The names of fields that an operation is told. -/
def names : RecordOperation α → List String
  | getAll => []
  | getLiterals parameters | getWhere parameters | getSingle parameters | updateAll parameters
  | delete parameters => parameters.names
  | insert _ identity => identity.toList
  | update _ key => key

end RecordOperation

/-! ## Records -/

section Records

variable {α : Type} (t : RecordType α) (c : Compiler)

theorem valueOf_keyFilter (values : List (String × Value)) {key : List String} {field : String}
    (h : field ∈ key) : (RecordType.keyFilter values key).valueOf field =
      Value.firstOf values field := by
  rw [RecordType.keyFilter, NamedValues.valueOf_ofList, NamedValues.lastOf, ← List.map_reverse,
    Value.firstOf, List.find?_map]
  cases hf : key.reverse.find? _ with
  | none => simpa using List.find?_eq_none.mp hf field (List.mem_reverse.mpr h)
  | some other =>
    obtain rfl : other = field := by simpa using List.find?_some hf
    rfl

theorem names_keyFilter (values : List (String × Value)) (key : List String) :
    (RecordType.keyFilter values key).names = key.eraseDups := by
  rw [RecordType.keyFilter, NamedValues.names_ofList, List.map_map]
  exact congrArg List.eraseDups (List.map_id key)

theorem mem_names_keyFilter {values : List (String × Value)} {key : List String} {field : String} :
    field ∈ (RecordType.keyFilter values key).names ↔ field ∈ key := by
  rw [names_keyFilter, List.mem_eraseDups]

variable (hd : t.schema.descriptor.HasNames)

include hd in
theorem means_insertStatement (record : α) {identity : Option String}
    (hidentity : ∀ name ∈ identity, IsName name) (compared : String → Value) :
    (t.insertStatement c record identity).Means c.dialect
      (c.insertTemplate t.schema.descriptor
        (Compiler.insertColumns t.schema.descriptor identity .empty) identity)
      (Place.value (Value.firstOf (t.values record)) compared) := by
  have hcolumns : Compiler.insertColumns t.schema.descriptor identity .empty =
      t.schema.descriptor.columns.filter fun column => some column != identity := by
    simp [Compiler.insertColumns, NamedValues.contains, NamedValues.empty]
  have hempty : ∀ field ∈ NamedValues.empty.names, IsName field :=
    fun _ h => absurd h List.not_mem_nil
  have := c.means_insert hd hidentity hempty (t.values record) compared
  rwa [hcolumns] at this ⊢

include hd in
/-- An update binds the record's values in front of the key's. So a column that is named as the
    key's placeholder is, which it can be, still takes its own value: its place comes first. -/
theorem means_updateStatement (record : α) {key : List String}
    (hkey : ∀ field ∈ key, IsName field) :
    (t.updateStatement c record key).Means c.dialect
      (c.updateTemplate t.schema.descriptor t.schema.descriptor.columns
        (RecordType.keyFilter (t.values record) key).names)
      (Place.value (Value.firstOf (t.values record)) (Value.firstOf (t.values record))) := by
  have hfilter := c.bindings_wherePlaceholders (RecordType.keyFilter (t.values record) key)
    (Value.firstOf (t.values record))
  refine means_of_bindings (c.wellFormed_updateTemplate hd hd.2 ?_) ?_ ?_
  · intro field hfield
    exact hkey field (mem_names_keyFilter.mp hfield)
  · exact c.toList_sql_update t.schema.descriptor .empty _
  · rw [Compiler.places_updateTemplate, List.map_append, ← c.columnBindings_eq]
    show _ ++ (c.wherePlaceholders _).bindings = _
    rw [hfilter]
    congr 1
    refine List.map_congr_left fun p hp => ?_
    obtain ⟨field, hfield, rfl⟩ := List.mem_map.mp hp
    rw [Place.value, Place.value, valueOf_keyFilter _ (mem_names_keyFilter.mp hfield)]

include hd in
/-- The statement of every operation that is not refused means what the operation does. -/
theorem RecordOperation.means_request {operation : RecordOperation α} {template : Template}
    (htemplate : operation.template? c t = some template) (hrefusal : operation.refusal? = none)
    (hnames : ∀ name ∈ operation.names, IsName name) :
    (operation.request c t).statement.Means c.dialect template (operation.meant t) := by
  cases operation with
  | getAll => cases htemplate
  | getLiterals filters => cases htemplate
  | getWhere parameters | getSingle parameters =>
    obtain rfl := Option.some.inj htemplate
    exact c.means_selectWhere hd hnames _
  | insert record identity =>
    obtain rfl := Option.some.inj htemplate
    have hidentity : ∀ name ∈ identity, IsName name := by
      intro name hname
      exact hnames name (Option.mem_toList.mpr hname)
    have hstatement : ((insert record identity).request c t).statement =
        t.insertStatement c record identity := by
      rw [request]
      split_ifs <;> rfl
    rw [hstatement]
    exact means_insertStatement t c hd record hidentity _
  | update record key =>
    obtain rfl := Option.some.inj htemplate
    exact means_updateStatement t c hd record hnames
  | updateAll values =>
    obtain rfl := Option.some.inj htemplate
    have hvalues : values.isEmpty = false := by
      simpa [refusal?] using hrefusal
    have hempty : ∀ field ∈ NamedValues.empty.names, IsName field :=
      fun _ h => absurd h List.not_mem_nil
    exact c.means_update hd hvalues hnames hempty
  | delete parameters =>
    obtain rfl := Option.some.inj htemplate
    exact c.means_delete hd hnames _

end Records

/-! ## Sessions -/

/-- **Every value at its place.** Take a session over any connection in any state, in any dialect
    and any quoting, and an operation on records whose table, columns and given names are names of
    word characters. Every statement that the operation hands to the connection means what the
    operation does: the text is the operation's template, and in either style of markers the
    positional form exists, leaves no named placeholder, and has at each place the value that is
    meant for it. -/
theorem means_of_contacts {σ α : Type} (connection : Connection σ) (s : σ) (c : Compiler)
    (t : RecordType α) (operation : RecordOperation α) {template : Template}
    (htemplate : operation.template? c t = some template) (hschema : t.schema.descriptor.HasNames)
    (hnames : ∀ name ∈ operation.names, IsName name) {before : ConnectionState} {request : Request}
    (hrun : .run before request ∈ Operation.contacts connection s [.records c t operation]) :
    request.statement.Means c.dialect template (operation.meant t) := by
  obtain ⟨made, hmade, hmeets⟩ := (Operation.records c t operation).run_watched connection s []
  have hcontacts : Operation.contacts connection s [.records c t operation] = made := by
    show (((Operation.records c t operation).perform connection.watched).run (s, [])).2.2 = made
    rw [hmade]
    rfl
  rw [hcontacts] at hrun
  obtain ⟨hrefusal, rfl⟩ := hmeets.of_run_mem hrun
  exact RecordOperation.means_request t c hschema htemplate hrefusal hnames

/-- The records of the schema with a column that is named as the placeholder of its key is. -/
def RecordType.twins : RecordType (Int64 × Int64) where
  schema := .twins
  values r := [("Id", .int r.1), ("pId", .int r.2)]
  ofRow row := do return (← row.decode "Id" .int64, ← row.decode "pId" .int64)

/-- The new value of the field and the key, which are bound under one name, keep apart. -/
theorem means_of_contacts_twins :
    let statement := RecordType.twins.updateStatement {} (1, 7) ["Id"]
    .run .opened (.execute statement) ∈
        Operation.contacts (Recorded.connection "sqlx::any::AnyConnection" (.ok .opened))
          { state := .opened } [.records {} .twins (.update (1, 7) ["Id"])] ∧
      statement.positional? .question =
        some ⟨"UPDATE T SET Id=?, pId=? WHERE Id=?", [.int 1, .int 7, .int 1]⟩ := by
  intro statement
  have hrun : .run .opened (.execute statement) ∈
      Operation.contacts (Recorded.connection "sqlx::any::AnyConnection" (.ok .opened))
        { state := .opened } [.records {} .twins (.update (1, 7) ["Id"])] :=
    List.mem_singleton.mpr rfl
  have hnames : ∀ name ∈ ["Id"], IsName name := List.forall_mem_singleton.mpr (isName_of_ascii rfl)
  have hmeans := means_of_contacts _ _ {} .twins (.update (1, 7) ["Id"]) rfl Schema.hasNames_twins
    hnames hrun
  refine ⟨hrun, (hmeans.positional .question).trans ?_⟩
  rfl

end RecordSql
