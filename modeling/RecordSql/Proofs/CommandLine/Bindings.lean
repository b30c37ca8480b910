import RecordSql.CommandLine.Run
import RecordSql.Proofs.Compiler.Templates

/-!
# Bindings of the command line

What the commands mean by the statements that they build. The command line binds values on its own,
and an update of all columns binds them behind those of its filter. A column can be named as the
placeholder of a filter's field is, and then the two values change places.

* `fill_filter_first`: when values that are bound behind those of a filter get to their places.
* `sends_of_job`: the text of every command's statement, and exactly when its values are at the
  places that they are meant for.
-/

namespace RecordSql

open Template

/-! ## Filters that are bound first -/

section FilterFirst

variable {d : Dialect} {columns fields : List String} {assigned compared : String → Value}

/-- The places of an update: those of its columns and behind them those of its filter. -/
def updatePlaces (columns fields : List String) : List Place :=
  columns.map Place.assigned ++ fields.map Place.compared

/-- The bindings of an update in the order of the command line: the filter comes first. -/
def filterFirst (d : Dialect) (columns fields : List String) (assigned compared : String → Value) :
    List Binding :=
  (fields.map Place.compared ++ columns.map Place.assigned).map fun p =>
    p.bind d (p.value assigned compared)

theorem perm_filterFirst :
    ((updatePlaces columns fields).map fun p => p.bind d (p.value assigned compared)).Perm
      (filterFirst d columns fields assigned compared) :=
  List.perm_append_comm.map _

/-- The first of some items that have a property, if all that have it are the same. -/
theorem find?_eq_some_of_unique {α : Type} {items : List α} {holds : α → Bool} {x : α}
    (hx : x ∈ items) (hholds : holds x = true) (hunique : ∀ y ∈ items, holds y = true → y = x) :
    items.find? holds = some x := by
  cases hf : items.find? holds with
  | none => exact absurd hholds (List.find?_eq_none.mp hf x hx)
  | some y => rw [hunique y (List.mem_of_find?_eq_some hf) (List.find?_some hf)]

/-- The values of a filter that are bound first still get to their places just if they are the
    values of the columns that are named as their placeholders are. -/
theorem fill_filter_first {values : List Value}
    (h : fill ((updatePlaces columns fields).map (Place.name d))
      (filterFirst d columns fields assigned compared) = some values) :
    values = (updatePlaces columns fields).map (Place.value assigned compared) ↔
      ∀ field ∈ fields, "p" ++ field ∈ columns → assigned ("p" ++ field) = compared field := by
  constructor
  · rintro rfl field hfield hcolumn
    -- the first place of the shared name is the column's, the first binding is the filter's
    have hname : (Place.assigned ("p" ++ field)).name d = (Place.compared field).name d :=
      Place.name_assigned_eq_compared.mpr rfl
    have hplace : (updatePlaces columns fields).find?
        (fun p => p.name d = (Place.compared field).name d) = some (.assigned ("p" ++ field)) := by
      rw [updatePlaces, List.find?_append,
        find?_eq_some_of_unique (List.mem_map_of_mem hcolumn) (by simpa using hname)]
      · rfl
      · intro p hp hpname
        obtain ⟨column, -, rfl⟩ := List.mem_map.mp hp
        rw [Place.name_assigned_eq_compared.mp (of_decide_eq_true hpname)]
    have hbinding : (filterFirst d columns fields assigned compared).find?
        (fun b => b.name.toList = (Place.compared field).name d) =
          some ((Place.compared field).bind d (compared field)) := by
      rw [filterFirst, List.map_append, List.find?_append, List.map_map,
        find?_eq_some_of_unique (List.mem_map_of_mem hfield) (by simp [Place.toList_name_bind])]
      · rfl
      · intro b hb hbname
        obtain ⟨other, -, rfl⟩ := List.mem_map.mp hb
        rw [Function.comp_apply, Place.toList_name_bind, decide_eq_true_eq,
          Place.name_compared_inj] at hbname
        rw [hbname]
    have hmem : Place.compared field ∈ updatePlaces columns fields :=
      List.mem_append_right _ (List.mem_map_of_mem hfield)
    have hfirst := find?_fill h (List.mem_map_of_mem hmem)
    rw [hbinding, List.zip_map', List.find?_map] at hfirst
    simp only [Function.comp_def] at hfirst
    rw [hplace] at hfirst
    exact Option.some.inj hfirst
  · intro hagree
    refine Option.some.inj (h.symm.trans (fill_of_agreement perm_filterFirst ?_))
    intro p hp q hq hname
    have hmem : ∀ {x : Place}, x ∈ updatePlaces columns fields →
        (∃ column ∈ columns, x = .assigned column) ∨ ∃ field ∈ fields, x = .compared field := by
      intro x hx
      simpa [updatePlaces, eq_comm] using hx
    obtain ⟨a, ha, rfl⟩ | ⟨a, ha, rfl⟩ := hmem hp
    · obtain ⟨b, hb, rfl⟩ | ⟨b, hb, rfl⟩ := hmem hq
      · rw [Place.name_assigned_inj.mp hname]
      · obtain rfl := Place.name_assigned_eq_compared.mp hname
        exact hagree b hb ha
    · obtain ⟨b, hb, rfl⟩ | ⟨b, hb, rfl⟩ := hmem hq
      · obtain rfl := Place.name_assigned_eq_compared.mp hname.symm
        exact (hagree a ha hb).symm
      · rw [Place.name_compared_inj.mp hname]

end FilterFirst

/-! ## Jobs -/

namespace CommandLine.Job

/-- The template of a command's statement, if values are bound to it. -/
def template? (c : Compiler) (d : Descriptor) (configured : Option String) : Job → Option Template
  | .describe | .dialects | .select _ true => none
  | .select filter false => some (c.selectTemplate d (NamedValues.ofList filter).names)
  | .insert identity _ preset =>
    let identity := identity <|> configured
    some (c.insertTemplate d (Compiler.insertColumns d identity (.ofList preset)) identity)
  | .update set _ filter =>
    some (c.updateTemplate d (if set.isEmpty then d.columns else (NamedValues.ofList set).names)
      (NamedValues.ofList filter).names)
  | .delete filter => some (c.deleteTemplate d (NamedValues.ofList filter).names)

/-- The value that a command means for a place. A column has the first value that is given for it; a
    field that is set or compared has the last one. -/
def meant : Job → Place → Value
  | .describe | .dialects => fun _ => .null
  | .select filter _ | .delete filter =>
    Place.value (NamedValues.lastOf filter) (NamedValues.lastOf filter)
  | .insert _ values _ => Place.value (Value.firstOf values) (Value.firstOf values)
  | .update set values filter =>
    Place.value (if set.isEmpty then Value.firstOf values else NamedValues.lastOf set)
      (NamedValues.lastOf filter)

/-- The names that a command writes: the identity and those of presets, settings and filters. -/
def names (configured : Option String) : Job → List String
  | .describe | .dialects => []
  | .select filter _ | .delete filter => filter.map Prod.fst
  | .insert identity _ preset => (identity <|> configured).toList ++ preset.map Prod.fst
  | .update set _ filter => set.map Prod.fst ++ filter.map Prod.fst

/-- An update of all columns gives every column that is named as the placeholder of a compared field
    the value that the field is compared with. -/
def Agrees (d : Descriptor) : Job → Prop
  | .update [] values filter =>
    ∀ field ∈ filter.map Prod.fst, "p" ++ field ∈ d.columns →
      Value.firstOf values ("p" ++ field) = NamedValues.lastOf filter field
  | _ => True

/-- The command line binds the columns that the compiler lists. -/
theorem statement?_insert (c : Compiler) (d : Descriptor) (configured identity : Option String)
    (values preset : List (String × Value)) :
    (insert identity values preset).statement? c d configured =
      some ((c.insert d (identity <|> configured) (.ofList preset)).bindAll
        (c.columnBindings
          (Compiler.insertColumns d (identity <|> configured) (.ofList preset)) values),
        c.readsBack (identity <|> configured)) := by
  have hcolumns : (d.columns.filter fun column =>
      !(some column == (identity <|> configured) || (NamedValues.ofList preset).contains column)) =
      Compiler.insertColumns d (identity <|> configured) (.ofList preset) := by
    simp [Compiler.insertColumns, bne]
  rw [statement?, hcolumns]

/-- An update of given fields is bound by the compiler alone. -/
theorem statement?_update_cons (c : Compiler) (d : Descriptor) (configured : Option String)
    (pair : String × Value) (set values filter : List (String × Value)) :
    (update (pair :: set) values filter).statement? c d configured =
      some (c.update d (.ofList (pair :: set)) (.ofList filter), false) := by
  simp [statement?, Statement.bindAll]

end CommandLine.Job

section Jobs

variable (c : Compiler) {schema : Schema} (hschema : schema.descriptor.HasNames)

theorem valueOf_ofList_eq (pairs : List (String × Value)) :
    (NamedValues.ofList pairs).valueOf = NamedValues.lastOf pairs :=
  funext (NamedValues.valueOf_ofList pairs)

theorem isName_names_ofList {pairs : List (String × Value)}
    (h : ∀ name ∈ pairs.map Prod.fst, IsName name) :
    ∀ name ∈ (NamedValues.ofList pairs).names, IsName name :=
  fun name hname => h name (NamedValues.mem_names_ofList.mp hname)

include hschema in
/-- An update of all columns sends one value for each of its places, and the values are those that
    are meant just if columns and compared fields of one name agree. -/
theorem sends_update_columns (values : List (String × Value)) {filter : List (String × Value)}
    (hfilter : ∀ name ∈ filter.map Prod.fst, IsName name) :
    let fields := (NamedValues.ofList filter).names
    let template := c.updateTemplate schema.descriptor schema.descriptor.columns fields
    ∃ sent,
      ((c.update schema.descriptor (.ofList []) (.ofList filter)).bindAll
        (c.columnBindings schema.descriptor.columns values)).Sends c.dialect template sent ∧
      (sent = template.places.map
          (Place.value (Value.firstOf values) (NamedValues.lastOf filter)) ↔
        (CommandLine.Job.update [] values filter).Agrees schema.descriptor) := by
  intro fields template
  have hfields : ∀ field ∈ fields, IsName field := isName_names_ofList hfilter
  have hplaces : template.places = updatePlaces schema.descriptor.columns fields :=
    c.places_updateTemplate ..
  have hbindings : ((c.update schema.descriptor (.ofList []) (.ofList filter)).bindAll
      (c.columnBindings schema.descriptor.columns values)).bindings =
        filterFirst c.dialect schema.descriptor.columns fields (Value.firstOf values)
          (NamedValues.lastOf filter) := by
    show (c.wherePlaceholders (.ofList filter)).bindings ++ _ = _
    rw [c.bindings_wherePlaceholders _ (Value.firstOf values), valueOf_ofList_eq,
      c.columnBindings_eq _ _ (NamedValues.lastOf filter), filterFirst, List.map_append]
  obtain ⟨sent, hfill, -⟩ := exists_fill (names_perm_of_bind perm_filterFirst).subperm
  refine ⟨sent, sends_of_fill (c.wellFormed_updateTemplate hschema hschema.2 hfields) ?_ ?_ ?_, ?_⟩
  · exact c.toList_sql_update schema.descriptor .empty _
  · rw [hbindings]
    refine Place.isPlaceholder_of_mem fun p hp => ?_
    obtain hp | hp := List.mem_append.mp hp
    · obtain ⟨field, hfield, rfl⟩ := List.mem_map.mp hp
      exact hfields field hfield
    · obtain ⟨column, hcolumn, rfl⟩ := List.mem_map.mp hp
      exact hschema.2 column hcolumn
  · rw [hbindings, hplaces]
    exact hfill
  · rw [hplaces, fill_filter_first hfill]
    constructor
    · intro h field hfield
      exact h field (NamedValues.mem_names_ofList.mpr hfield)
    · intro h field hfield
      exact h field (NamedValues.mem_names_ofList.mp hfield)

/-- A statement that means what its command does sends what is meant, if nothing else has to agree.
    -/
theorem sends_of_means {c : Compiler} {d : Descriptor} {configured : Option String}
    {job : CommandLine.Job} {template : Template} {statement : Statement} {returnsRows : Bool}
    (hstatement : job.statement? c d configured = some (statement, returnsRows))
    (hmeans : statement.Means c.dialect template job.meant) (hagrees : job.Agrees d) :
    ∃ statement returnsRows sent,
      job.statement? c d configured = some (statement, returnsRows) ∧
        statement.Sends c.dialect template sent ∧
        (sent = template.places.map job.meant ↔ job.Agrees d) :=
  ⟨statement, returnsRows, _, hstatement, hmeans, iff_of_true rfl hagrees⟩

include hschema in
/-- **Every value at its place, but for one case.** Take a command that binds values, in any dialect
    and any quoting, about a schema whose table and columns are names of word characters, as are the
    names that the command writes. The command has a statement, whose text is the command's template
    and whose positional form, in either style of markers, exists, leaves no named placeholder and
    sends one value for each place. These are the values that the command means unless it is an
    update of all columns and a column that is named as the placeholder of a compared field should
    get another value than the field is compared with. -/
theorem sends_of_job (configured : Option String) (job : CommandLine.Job) {template : Template}
    (htemplate : job.template? c schema.descriptor configured = some template)
    (hnames : ∀ name ∈ job.names configured, IsName name) :
    ∃ statement returnsRows sent,
      job.statement? c schema.descriptor configured = some (statement, returnsRows) ∧
        statement.Sends c.dialect template sent ∧
        (sent = template.places.map job.meant ↔ job.Agrees schema.descriptor) := by
  cases job with
  | describe => cases htemplate
  | dialects => cases htemplate
  | select filter inline =>
    cases inline with
    | true => cases htemplate
    | false =>
      obtain rfl := Option.some.inj htemplate
      have hmeans := c.means_selectWhere hschema (isName_names_ofList hnames)
        (NamedValues.lastOf filter)
      rw [valueOf_ofList_eq] at hmeans
      exact sends_of_means rfl hmeans trivial
  | insert identity values preset =>
    obtain rfl := Option.some.inj htemplate
    have hmeans := c.means_insert hschema
      (fun name hname => hnames name (List.mem_append_left _ (Option.mem_toList.mpr hname)))
      (isName_names_ofList fun name hname => hnames name (List.mem_append_right _ hname)) values
      (Value.firstOf values)
    exact sends_of_means (CommandLine.Job.statement?_insert ..) hmeans trivial
  | update set values filter =>
    have hfilter : ∀ name ∈ filter.map Prod.fst, IsName name :=
      fun name hname => hnames name (List.mem_append_right _ hname)
    cases set with
    | nil =>
      obtain rfl := Option.some.inj htemplate
      obtain ⟨sent, hsent⟩ := sends_update_columns c hschema values hfilter
      exact ⟨_, _, sent, rfl, hsent⟩
    | cons pair rest =>
      obtain rfl := Option.some.inj htemplate
      have hset : (NamedValues.ofList (pair :: rest)).isEmpty = false := by
        rw [NamedValues.isEmpty_ofList]
        rfl
      have hmeans := c.means_update hschema hset
        (isName_names_ofList fun name hname => hnames name (List.mem_append_left _ hname))
        (isName_names_ofList hfilter)
      rw [valueOf_ofList_eq, valueOf_ofList_eq] at hmeans
      exact sends_of_means (CommandLine.Job.statement?_update_cons ..) hmeans trivial
  | delete filter =>
    obtain rfl := Option.some.inj htemplate
    have hmeans := c.means_delete hschema (isName_names_ofList hnames) (NamedValues.lastOf filter)
    rw [valueOf_ofList_eq] at hmeans
    exact sends_of_means rfl hmeans trivial

end Jobs

namespace CommandLine.Job

/-- An update whose filter has the placeholder of a column. -/
def twins : Job :=
  .update [] [("Id", .int 1), ("pId", .int 7)] [("Id", .int 3)]

end CommandLine.Job

/-- The value of a filter becomes that of a column, and the column's value becomes the filter's. -/
theorem update_twins_swaps :
    ∃ template statement,
      CommandLine.Job.twins.template? {} Schema.twins.descriptor none = some template ∧
        CommandLine.Job.twins.statement? {} Schema.twins.descriptor none =
          some (statement, false) ∧
        statement.positional? .question =
          some ⟨"UPDATE T SET Id=?, pId=? WHERE Id=?", [.int 1, .int 3, .int 7]⟩ ∧
        template.places.map CommandLine.Job.twins.meant = [.int 1, .int 7, .int 3] := by
  refine ⟨_, _, rfl, rfl, ?_, ?_⟩
  · decide +kernel
  · decide +kernel

/-- The command of an update whose filter has the placeholder of a column does not send what it
    means. -/
theorem sends_of_job_twins :
    (∀ name ∈ CommandLine.Job.twins.names none, IsName name) ∧
      ∃ statement returnsRows sent,
        CommandLine.Job.twins.statement? {} Schema.twins.descriptor none =
          some (statement, returnsRows) ∧
        statement.positional? .question =
          some ⟨"UPDATE T SET Id=?, pId=? WHERE Id=?", sent⟩ ∧
        sent ≠ [.int 1, .int 7, .int 3] := by
  have hnames : ∀ name ∈ CommandLine.Job.twins.names none, IsName name :=
    List.forall_mem_singleton.mpr (isName_of_ascii rfl)
  obtain ⟨statement, returnsRows, sent, hstatement, hsends, hmeant⟩ :=
    sends_of_job {} Schema.hasNames_twins none .twins rfl hnames
  refine ⟨hnames, statement, returnsRows, sent, hstatement, hsends.positional .question, ?_⟩
  intro hsent
  have hagrees := hmeant.mp hsent "Id" (by decide) (by decide)
  revert hagrees
  decide

end RecordSql
