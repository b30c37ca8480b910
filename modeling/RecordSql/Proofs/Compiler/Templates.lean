import RecordSql.Compiler.Statements
import RecordSql.Proofs.Dialect.Quoting
import RecordSql.Proofs.Statement.Filling
import RecordSql.Proofs.Statement.NamedValues

/-!
# Templates of compiled statements

The templates that a compiler's statements are written from: which text a statement has, and what is
wanted at each of its places.

* `toList_sql_selectWhere`, `toList_sql_delete`, `toList_sql_insert`, `toList_sql_update`: the text
  of a statement is its template written with names.
* `columnBindings_eq`, `fieldBindings_eq`, `bindings_wherePlaceholders`: what is bound, as places.
* `wellFormed_selectTemplate` and so on: the templates are well-formed if tables and fields have
  names.
-/

namespace RecordSql

open Text Positional

/-! ## Texts without markers -/

/-- What is kept in putting texts together holds of texts with a separator between them. -/
theorem intercalate_induction {P : String → Prop} (hempty : P "")
    (happend : ∀ s t, P s → P t → P (s ++ t)) {separator : String} (hs : P separator)
    {items : List String} (h : ∀ item ∈ items, P item) : P (separator.intercalate items) := by
  induction items with
  | nil => simpa using hempty
  | cons item rest ih =>
    cases rest with
    | nil => simpa using h
    | cons next rest =>
      have hrest := ih fun x hx => h x (List.mem_cons_of_mem _ hx)
      rw [String.intercalate_cons_cons]
      exact happend _ _ (happend _ _ (h item (by simp)) hs) hrest

namespace Dialect

theorem marker_notMem_of_plain (d : Dialect) {s : String}
    (h : s.toList.all (fun ch => ch ∉ ['@', '?', ':']) = true) : d.marker ∉ s.toList := by
  intro hmem
  have := List.all_eq_true.mp h _ hmem
  cases d <;> simp [marker] at this

theorem marker_notMem_append {d : Dialect} {s t : String} :
    d.marker ∉ (s ++ t).toList ↔ d.marker ∉ s.toList ∧ d.marker ∉ t.toList := by
  simp

theorem marker_notMem_intercalate {d : Dialect} {separator : String} {items : List String}
    (hs : d.marker ∉ separator.toList) (h : ∀ item ∈ items, d.marker ∉ item.toList) :
    d.marker ∉ (separator.intercalate items).toList :=
  intercalate_induction (P := fun s => d.marker ∉ s.toList) (by simp)
    (fun _ _ hs ht => marker_notMem_append.mpr ⟨hs, ht⟩) hs h

end Dialect

/-! ## Names of schemas -/

/-- The table and the columns have names. -/
def Descriptor.HasNames (d : Descriptor) : Prop :=
  IsName d.table ∧ ∀ column ∈ d.columns, IsName column

/-- A schema with a column that is named as the placeholder of another column is. -/
def Schema.twins : Schema where
  name := "T"
  members := [⟨"Id", .scalar .numeric, false⟩, ⟨"pId", .scalar .numeric, false⟩]

theorem Schema.hasNames_twins : twins.descriptor.HasNames := by
  refine ⟨isName_of_ascii rfl, ?_⟩
  show ∀ column ∈ ["Id", "pId"], IsName column
  intro column hcolumn
  obtain rfl | rfl : column = "Id" ∨ column = "pId" := by simpa using hcolumn
  · exact isName_of_ascii rfl
  · exact isName_of_ascii rfl

namespace Compiler

open Template

theorem marker_notMem_quote {c : Compiler} {s : String} (h : IsName s) :
    c.dialect.marker ∉ (c.quote s).toList := by
  have hs : c.dialect.marker ∉ s.toList := c.dialect.marker_notMem_of_isWordChar h
  have hquote : ∀ ch ∈ ['[', ']', '\x60', '"'], c.dialect.marker ≠ ch := by
    cases c.dialect <;> simp [Dialect.marker]
  rw [quote, Quoting.quote]
  cases c.quoting <;> simp [Quoting.quotes?, Quoting.mem_double, hs] <;> simp_all

/-! ## Templates -/

/-- The places that fields are given values at, in a list of placeholders. -/
def valuesTemplate (columns : List String) : Template :=
  separated ", " (columns.map fun column => [.place (.assigned column)])

/-- The assignments to fields. -/
def assignmentsTemplate (c : Compiler) (fields : List String) : Template :=
  separated ", " (fields.map fun field => [.text (c.quote field ++ "="), .place (.assigned field)])

/-- The comparisons of fields. -/
def conditionsTemplate (c : Compiler) (fields : List String) : Template :=
  separated " AND "
    (fields.map fun field => [.text (c.quote field ++ "="), .place (.compared field)])

/-- The clause that compares fields, if there are any. -/
def whereTemplate (c : Compiler) (fields : List String) : Template :=
  if fields.isEmpty then [] else .text " WHERE " :: c.conditionsTemplate fields

/-- Reads the records by some fields. -/
def selectTemplate (c : Compiler) (d : Descriptor) (filter : List String) : Template :=
  .text ("SELECT " ++ c.identifierList d.columns ++ " FROM " ++ c.quote d.table) ::
    c.whereTemplate filter

/-- Deletes the records by some fields. -/
def deleteTemplate (c : Compiler) (d : Descriptor) (filter : List String) : Template :=
  .text ("DELETE FROM " ++ c.quote d.table) :: c.whereTemplate filter

/-- Inserts a record with these columns. -/
def insertTemplate (c : Compiler) (d : Descriptor) (columns : List String)
    (identity : Option String) : Template :=
  .text ("INSERT INTO " ++ c.quote d.table ++ " (" ++ c.identifierList columns ++ ") VALUES (") ::
    (valuesTemplate columns ++ [.text (")" ++ c.insertSuffix d identity)])

/-- Updates some fields of the records by others. -/
def updateTemplate (c : Compiler) (d : Descriptor) (fields filter : List String) : Template :=
  .text ("UPDATE " ++ c.quote d.table ++ " SET ") ::
    (c.assignmentsTemplate fields ++ c.whereTemplate filter)

/-! ## Places -/

theorem places_valuesTemplate (columns : List String) :
    (valuesTemplate columns).places = columns.map Place.assigned := by
  rw [valuesTemplate, places_separated, List.flatMap_map]
  exact List.flatMap_pure_eq_map _ _

theorem places_assignmentsTemplate (c : Compiler) (fields : List String) :
    (c.assignmentsTemplate fields).places = fields.map Place.assigned := by
  rw [assignmentsTemplate, places_separated, List.flatMap_map]
  exact List.flatMap_pure_eq_map _ _

theorem places_whereTemplate (c : Compiler) (fields : List String) :
    (c.whereTemplate fields).places = fields.map Place.compared := by
  cases fields with
  | nil => rfl
  | cons field rest =>
    rw [whereTemplate, if_neg (by simp), places, conditionsTemplate, places_separated,
      List.flatMap_map]
    exact List.flatMap_pure_eq_map _ _

theorem places_selectTemplate (c : Compiler) (d : Descriptor) (filter : List String) :
    (c.selectTemplate d filter).places = filter.map Place.compared :=
  c.places_whereTemplate filter

theorem places_deleteTemplate (c : Compiler) (d : Descriptor) (filter : List String) :
    (c.deleteTemplate d filter).places = filter.map Place.compared :=
  c.places_whereTemplate filter

theorem places_insertTemplate (c : Compiler) (d : Descriptor) (columns : List String)
    (identity : Option String) :
    (c.insertTemplate d columns identity).places = columns.map Place.assigned := by
  rw [insertTemplate, places, places_append, places_valuesTemplate]
  simp [places]

theorem places_updateTemplate (c : Compiler) (d : Descriptor) (fields filter : List String) :
    (c.updateTemplate d fields filter).places =
      fields.map Place.assigned ++ filter.map Place.compared := by
  rw [updateTemplate, places, places_append, places_assignmentsTemplate, places_whereTemplate]

/-! ## Texts -/

theorem toList_placeholder (c : Compiler) (field : String) :
    (c.placeholder field).toList = (Place.assigned field).name c.dialect := String.toList_ofList

theorem toList_filterPlaceholder (c : Compiler) (field : String) :
    (c.filterPlaceholder field).toList = (Place.compared field).name c.dialect :=
  String.toList_ofList

theorem named_valuesTemplate (c : Compiler) (columns : List String) :
    named c.dialect (valuesTemplate columns) =
      (commaSeparated (columns.map c.placeholder)).toList := by
  rw [valuesTemplate, named_separated, commaSeparated, String.toList_intercalate]
  congr 1
  simp [named, toList_placeholder]

theorem named_assignmentsTemplate (c : Compiler) (fields : List String) :
    named c.dialect (c.assignmentsTemplate fields) =
      (commaSeparated (fields.map c.assignment)).toList := by
  rw [assignmentsTemplate, named_separated, commaSeparated, String.toList_intercalate]
  congr 1
  simp [named, assignment, toList_placeholder]

theorem named_whereTemplate (c : Compiler) (fields : List String) :
    named c.dialect (c.whereTemplate fields) =
      (whereClause (fields.map c.placeholderCondition)).toList := by
  cases fields with
  | nil => rfl
  | cons field rest =>
    rw [whereTemplate, if_neg (by simp), named, conditionsTemplate, named_separated, whereClause,
      if_neg (by simp), String.toList_append, String.toList_intercalate]
    congr 2
    simp [named, placeholderCondition, toList_filterPlaceholder]

theorem toList_sql_selectWhere (c : Compiler) (d : Descriptor) (filter : Parameters) :
    (c.selectWhere d filter).sql.toList = named c.dialect (c.selectTemplate d filter.names) := by
  rw [selectTemplate, named, named_whereTemplate, ← String.toList_append]
  rfl

theorem toList_sql_delete (c : Compiler) (d : Descriptor) (filter : Parameters) :
    (c.delete d filter).sql.toList = named c.dialect (c.deleteTemplate d filter.names) := by
  rw [deleteTemplate, named, named_whereTemplate, ← String.toList_append]
  rfl

theorem toList_sql_insert (c : Compiler) (d : Descriptor) (identity : Option String)
    (explicit : Parameters) :
    (c.insert d identity explicit).sql.toList =
      named c.dialect (c.insertTemplate d (insertColumns d (effectiveIdentity d identity) explicit)
        (effectiveIdentity d identity)) := by
  unfold Compiler.insert
  rw [insertTemplate, named, named_append, named_valuesTemplate c]
  simp only [named, String.toList_append, List.append_assoc, List.append_nil]

theorem toList_sql_update (c : Compiler) (d : Descriptor) (values filter : Parameters) :
    (c.update d values filter).sql.toList =
      named c.dialect (c.updateTemplate d (updateFields d values) filter.names) := by
  rw [updateTemplate, named, named_append, named_assignmentsTemplate, named_whereTemplate,
    ← String.toList_append, ← String.toList_append]
  rw [← String.append_assoc]
  rfl

/-! ## Bindings -/

theorem columnBindings_eq (c : Compiler) (columns : List String) (values : List (String × Value))
    (compared : String → Value) :
    c.columnBindings columns values =
      (columns.map Place.assigned).map fun p =>
        p.bind c.dialect (p.value (Value.firstOf values) compared) := by
  rw [columnBindings, List.map_map]
  rfl

theorem fieldBindings_eq (c : Compiler) (values : Parameters) (compared : String → Value) :
    c.fieldBindings values.entries =
      (values.names.map Place.assigned).map fun p =>
        p.bind c.dialect (p.value values.valueOf compared) := by
  rw [fieldBindings, NamedValues.names, NamedValues.namesOf, List.map_map, List.map_map]
  refine List.map_congr_left fun e he => ?_
  rw [Function.comp_apply, Function.comp_apply, Place.value, NamedValues.valueOf_of_mem he]
  rfl

theorem bindings_wherePlaceholders (c : Compiler) (filter : Parameters)
    (assigned : String → Value) :
    (c.wherePlaceholders filter).bindings =
      (filter.names.map Place.compared).map fun p =>
        p.bind c.dialect (p.value assigned filter.valueOf) := by
  rw [NamedValues.names, NamedValues.namesOf, List.map_map, List.map_map]
  refine List.map_congr_left fun e he => ?_
  rw [Function.comp_apply, Function.comp_apply, Place.value, NamedValues.valueOf_of_mem he]
  rfl

/-! ## Well-formed templates -/

theorem wellFormed_valuesTemplate (c : Compiler) {columns : List String}
    (h : ∀ column ∈ columns, IsName column) : WellFormed c.dialect (valuesTemplate columns) := by
  refine WellFormed.separated (c.dialect.marker_notMem_of_plain (by decide))
    ⟨by decide, by decide⟩ ?_
  intro t ht
  obtain ⟨column, hmem, rfl⟩ := List.mem_map.mp ht
  exact ⟨h column hmem, trivial, trivial⟩

theorem wellFormed_comparison {c : Compiler} {field : String} (hfield : IsName field) {p : Place}
    (hp : p.field = field) : WellFormed c.dialect [.text (c.quote field ++ "="), .place p] := by
  refine ⟨?_, hp ▸ hfield, trivial, trivial⟩
  exact Dialect.marker_notMem_append.mpr
    ⟨marker_notMem_quote hfield, c.dialect.marker_notMem_of_plain (by decide)⟩

theorem wellFormed_assignmentsTemplate (c : Compiler) {fields : List String}
    (h : ∀ field ∈ fields, IsName field) : WellFormed c.dialect (c.assignmentsTemplate fields) := by
  refine WellFormed.separated (c.dialect.marker_notMem_of_plain (by decide))
    ⟨by decide, by decide⟩ ?_
  intro t ht
  obtain ⟨field, hmem, rfl⟩ := List.mem_map.mp ht
  exact wellFormed_comparison (h field hmem) rfl

theorem wellFormed_conditionsTemplate (c : Compiler) {fields : List String}
    (h : ∀ field ∈ fields, IsName field) : WellFormed c.dialect (c.conditionsTemplate fields) := by
  refine WellFormed.separated (c.dialect.marker_notMem_of_plain (by decide))
    ⟨by decide, by decide⟩ ?_
  intro t ht
  obtain ⟨field, hmem, rfl⟩ := List.mem_map.mp ht
  exact wellFormed_comparison (h field hmem) rfl

theorem breaks_whereTemplate (c : Compiler) (fields : List String) :
    Breaks (c.whereTemplate fields) := by
  rw [whereTemplate]
  split_ifs
  · trivial
  · exact ⟨by decide, by decide⟩

theorem wellFormed_whereTemplate (c : Compiler) {fields : List String}
    (h : ∀ field ∈ fields, IsName field) : WellFormed c.dialect (c.whereTemplate fields) := by
  rw [whereTemplate]
  split_ifs
  · trivial
  · exact ⟨c.dialect.marker_notMem_of_plain (by decide), c.wellFormed_conditionsTemplate h⟩

theorem marker_notMem_identifierList (c : Compiler) {identifiers : List String}
    (h : ∀ identifier ∈ identifiers, IsName identifier) :
    c.dialect.marker ∉ (c.identifierList identifiers).toList := by
  refine Dialect.marker_notMem_intercalate (c.dialect.marker_notMem_of_plain (by decide)) ?_
  intro item hitem
  obtain ⟨identifier, hmem, rfl⟩ := List.mem_map.mp hitem
  exact marker_notMem_quote (h identifier hmem)

theorem marker_notMem_insertSuffix (c : Compiler) {d : Descriptor} (hd : d.HasNames)
    {identity : Option String} (hidentity : ∀ name ∈ identity, IsName name) :
    c.dialect.marker ∉ (c.insertSuffix d identity).toList := by
  have hplain := @Dialect.marker_notMem_of_plain c.dialect
  cases identity with
  | none => exact hplain (s := "") (by decide)
  | some name =>
    rw [insertSuffix, Option.bind_some, identitySuffix?]
    cases hf : c.dialect.readBack? with
    | none => exact hplain (s := "") (by decide)
    | some f =>
      have hcall : c.dialect.marker ∉ f.call.toList := by cases f <;> exact hplain (by decide)
      simp only [Option.map_some, Option.getD_some, Dialect.marker_notMem_append]
      refine ⟨⟨⟨⟨⟨⟨⟨⟨hplain (by decide), ?_⟩, hplain (by decide)⟩, ?_⟩, hplain (by decide)⟩, ?_⟩,
        hplain (by decide)⟩, hcall⟩, hplain (by decide)⟩
      · exact c.marker_notMem_identifierList hd.2
      · exact marker_notMem_quote hd.1
      · exact marker_notMem_quote (hidentity name rfl)

theorem wellFormed_selectTemplate (c : Compiler) {d : Descriptor} (hd : d.HasNames)
    {filter : List String} (hfilter : ∀ field ∈ filter, IsName field) :
    WellFormed c.dialect (c.selectTemplate d filter) := by
  have hplain := @Dialect.marker_notMem_of_plain c.dialect
  refine ⟨?_, c.wellFormed_whereTemplate hfilter⟩
  simp only [Dialect.marker_notMem_append]
  exact ⟨⟨⟨hplain (by decide), c.marker_notMem_identifierList hd.2⟩, hplain (by decide)⟩,
    marker_notMem_quote hd.1⟩

theorem wellFormed_deleteTemplate (c : Compiler) {d : Descriptor} (hd : d.HasNames)
    {filter : List String} (hfilter : ∀ field ∈ filter, IsName field) :
    WellFormed c.dialect (c.deleteTemplate d filter) :=
  ⟨Dialect.marker_notMem_append.mpr
    ⟨c.dialect.marker_notMem_of_plain (by decide), marker_notMem_quote hd.1⟩,
    c.wellFormed_whereTemplate hfilter⟩

theorem wellFormed_insertTemplate (c : Compiler) {d : Descriptor} (hd : d.HasNames)
    {columns : List String} (hcolumns : ∀ column ∈ columns, IsName column)
    {identity : Option String} (hidentity : ∀ name ∈ identity, IsName name) :
    WellFormed c.dialect (c.insertTemplate d columns identity) := by
  have hplain := @Dialect.marker_notMem_of_plain c.dialect
  refine ⟨?_, (c.wellFormed_valuesTemplate hcolumns).append ⟨?_, trivial⟩ ?_⟩
  · simp only [Dialect.marker_notMem_append]
    exact ⟨⟨⟨⟨hplain (by decide), marker_notMem_quote hd.1⟩, hplain (by decide)⟩,
      c.marker_notMem_identifierList hcolumns⟩, hplain (by decide)⟩
  · exact Dialect.marker_notMem_append.mpr
      ⟨hplain (by decide), c.marker_notMem_insertSuffix hd hidentity⟩
  · rw [Breaks, String.toList_append]
    exact ⟨by simp, isWordChar_ascii (c := ')') (by decide)⟩

theorem wellFormed_updateTemplate (c : Compiler) {d : Descriptor} (hd : d.HasNames)
    {fields filter : List String} (hfields : ∀ field ∈ fields, IsName field)
    (hfilter : ∀ field ∈ filter, IsName field) :
    WellFormed c.dialect (c.updateTemplate d fields filter) := by
  have hplain := @Dialect.marker_notMem_of_plain c.dialect
  refine ⟨?_, (c.wellFormed_assignmentsTemplate hfields).append
    (c.wellFormed_whereTemplate hfilter) (c.breaks_whereTemplate filter)⟩
  simp only [Dialect.marker_notMem_append]
  exact ⟨⟨hplain (by decide), marker_notMem_quote hd.1⟩, hplain (by decide)⟩

/-! ## Statements that the compiler binds -/

theorem means_selectWhere (c : Compiler) {d : Descriptor} (hd : d.HasNames) {filter : Parameters}
    (hfilter : ∀ field ∈ filter.names, IsName field) (assigned : String → Value) :
    (c.selectWhere d filter).Means c.dialect (c.selectTemplate d filter.names)
      (Place.value assigned filter.valueOf) := by
  refine means_of_bindings (c.wellFormed_selectTemplate hd hfilter)
    (c.toList_sql_selectWhere d filter) ?_
  rw [places_selectTemplate, ← c.bindings_wherePlaceholders filter assigned]
  rfl

theorem means_delete (c : Compiler) {d : Descriptor} (hd : d.HasNames) {filter : Parameters}
    (hfilter : ∀ field ∈ filter.names, IsName field) (assigned : String → Value) :
    (c.delete d filter).Means c.dialect (c.deleteTemplate d filter.names)
      (Place.value assigned filter.valueOf) := by
  refine means_of_bindings (c.wellFormed_deleteTemplate hd hfilter)
    (c.toList_sql_delete d filter) ?_
  rw [places_deleteTemplate, ← c.bindings_wherePlaceholders filter assigned]
  rfl

/-- An update binds the values that it is given in front of those that it compares with, in the
    order of their places. -/
theorem means_update (c : Compiler) {d : Descriptor} (hd : d.HasNames) {values filter : Parameters}
    (hvalues : values.isEmpty = false) (hnames : ∀ field ∈ values.names, IsName field)
    (hfilter : ∀ field ∈ filter.names, IsName field) :
    (c.update d values filter).Means c.dialect (c.updateTemplate d values.names filter.names)
      (Place.value values.valueOf filter.valueOf) := by
  have hfields : updateFields d values = values.names := by
    rw [updateFields, hvalues]
    rfl
  refine means_of_bindings (c.wellFormed_updateTemplate hd hnames hfilter)
    (hfields ▸ c.toList_sql_update d values filter) ?_
  rw [places_updateTemplate, List.map_append, ← c.fieldBindings_eq values filter.valueOf,
    ← c.bindings_wherePlaceholders filter values.valueOf]
  rfl

/-! ## Insertions -/

/-- The descriptor of a schema has no field that is flagged as the identity. -/
theorem effectiveIdentity_descriptor (s : Schema) (identity : Option String) :
    effectiveIdentity s.descriptor identity = identity := by
  have hflagged : s.descriptor.identity? = none := by
    rw [Descriptor.identity?, List.find?_eq_none]
    intro field hfield
    obtain ⟨⟨m, ordinal⟩, -, hm⟩ := List.mem_filterMap.mp hfield
    obtain ⟨kind, -, rfl⟩ := Option.map_eq_some_iff.mp hm
    simp
  rw [effectiveIdentity, hflagged]
  cases identity <;> rfl

/-- An insertion with values for its columns means those values. Explicit values are bound in front
    of them, but to places that the statement does not have. -/
theorem means_insert (c : Compiler) {s : Schema} (hs : s.descriptor.HasNames)
    {identity : Option String} (hidentity : ∀ name ∈ identity, IsName name) {explicit : Parameters}
    (hexplicit : ∀ field ∈ explicit.names, IsName field) (values : List (String × Value))
    (compared : String → Value) :
    ((c.insert s.descriptor identity explicit).bindAll
      (c.columnBindings (insertColumns s.descriptor identity explicit) values)).Means c.dialect
        (c.insertTemplate s.descriptor (insertColumns s.descriptor identity explicit) identity)
        (Place.value (Value.firstOf values) compared) := by
  have hcolumns : ∀ column ∈ insertColumns s.descriptor identity explicit,
      IsName column ∧ column ∉ explicit.names := by
    intro column hcolumn
    obtain ⟨hmem, hkept⟩ := List.mem_filter.mp hcolumn
    rw [Bool.and_eq_true, Bool.not_eq_true', Bool.eq_false_iff, Ne,
      NamedValues.contains_eq_true_iff] at hkept
    exact ⟨hs.2 column hmem, hkept.2⟩
  refine sends_of_fill (c.wellFormed_insertTemplate hs (fun x hx => (hcolumns x hx).1) hidentity)
    ?_ ?_ ?_
  · have hsql := c.toList_sql_insert s.descriptor identity explicit
    rwa [effectiveIdentity_descriptor] at hsql
  · intro b hb
    obtain hb | hb := List.mem_append.mp hb
    · change b ∈ c.fieldBindings explicit.entries at hb
      rw [c.fieldBindings_eq explicit compared] at hb
      refine Place.isPlaceholder_of_mem (fun p hp => ?_) b hb
      obtain ⟨field, hfield, rfl⟩ := List.mem_map.mp hp
      exact hexplicit field hfield
    · rw [c.columnBindings_eq _ values compared] at hb
      refine Place.isPlaceholder_of_mem (fun p hp => ?_) b hb
      obtain ⟨column, hcolumn, rfl⟩ := List.mem_map.mp hp
      exact (hcolumns column hcolumn).1
  · have hunused : ∀ b ∈ c.fieldBindings explicit.entries, b.name.toList ∉
        ((insertColumns s.descriptor identity explicit).map Place.assigned).map
          (Place.name c.dialect) := by
      intro b hb hname
      rw [c.fieldBindings_eq explicit compared] at hb
      obtain ⟨p, hp, rfl⟩ := List.mem_map.mp hb
      obtain ⟨field, hfield, rfl⟩ := List.mem_map.mp hp
      rw [Place.toList_name_bind, List.map_map, List.mem_map] at hname
      obtain ⟨column, hcolumn, hsame⟩ := hname
      obtain rfl := Place.name_assigned_inj.mp hsame
      exact (hcolumns column hcolumn).2 hfield
    rw [places_insertTemplate]
    refine (fill_append_left hunused).trans ?_
    rw [c.columnBindings_eq _ values compared]
    exact fill_bind c.dialect _ _

end Compiler

end RecordSql
