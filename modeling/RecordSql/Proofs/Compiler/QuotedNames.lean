import RecordSql.Proofs.Compiler.Templates
import RecordSql.Proofs.Statement.Sparse

/-!
# Quoted names of any characters

Statements that read by a filter, where tables, columns and compared fields are named with any
characters and quoted. The placeholder of a field repeats its name without quotes, so it can also
stand inside other names; the search for places tells them apart just if it comes upon the right one
first.

* `exists_placeholder_of_holds`, `holdsPlaceholder_of_quote`: placeholders within quotes.
* `introduced_selectTemplate`, `sparse_selectTemplate`: what keeps placeholders apart.
* `places_of_selectWhere`: which statements can be sent as they are meant.
-/

namespace RecordSql

open Text Positional Template

/-! ## Quoted names -/

section Quoted

variable {q : Quoting} {opening closing : Char} (hq : q.quotes? = some (opening, closing))
  {d : Dialect} {s : String}

include hq

theorem Dialect.marker_ne_quotes (d : Dialect) : d.marker ≠ opening ∧ d.marker ≠ closing := by
  cases q with
  | bare => cases hq
  | _ =>
    cases hq
    cases d <;> decide

theorem continuesName_quote (identifier : String) :
    continuesName (q.quote identifier).toList = false := by
  rw [Quoting.toList_quote hq]
  exact (Quoting.isWordChar_quotes hq).1

theorem closing_ne_p : closing ≠ 'p' := by
  rintro rfl
  have := (Quoting.isWordChar_quotes hq).2
  rw [isWordChar_p] at this
  cases this

/-- A name that holds the beginning of a placeholder holds, within its quotes, a whole placeholder
    of a field that is named with word characters. -/
theorem exists_placeholder_of_holds (h : HoldsPlaceholder d s) :
    ∃ field, IsName field ∧ ∃ before after,
      (q.quote s).toList = before ++ ((Place.compared field).name d ++ after) ∧
        after ≠ [] ∧ continuesName after = false := by
  obtain ⟨before, rest, h⟩ := h
  have hword : ∀ ch ∈ rest.takeWhile isWordChar, isWordChar ch = true :=
    List.all_eq_true.mp List.all_takeWhile
  have hkeeps : ∀ cs : List Char, (∀ ch ∈ cs, isWordChar ch = true) →
      Quoting.double closing cs = cs := by
    refine fun cs hcs => Quoting.double_eq_self fun hmem => ?_
    have := hcs closing hmem
    rw [(Quoting.isWordChar_quotes hq).2] at this
    cases this
  refine ⟨String.ofList (rest.takeWhile isWordChar), ?_,
    opening :: Quoting.double closing before,
    Quoting.double closing (rest.dropWhile isWordChar) ++ [closing], ?_, by simp, ?_⟩
  · intro ch hch
    rw [String.toList_ofList] at hch
    exact hword ch hch
  · have hname : (Place.compared (String.ofList (rest.takeWhile isWordChar))).name d =
        [d.marker, 'p'] ++ rest.takeWhile isWordChar := by
      rw [Place.name, Place.word, String.toList_ofList]
      rfl
    have hrest : Quoting.double closing rest = rest.takeWhile isWordChar ++
        Quoting.double closing (rest.dropWhile isWordChar) := by
      conv_lhs => rw [← List.takeWhile_append_dropWhile (p := isWordChar) (l := rest)]
      rw [Quoting.double_append, hkeeps _ hword]
    have hpair : Quoting.double closing [d.marker, 'p'] = [d.marker, 'p'] := by
      refine Quoting.double_eq_self ?_
      simp [closing_ne_p hq, (d.marker_ne_quotes hq).2.symm]
    rw [Quoting.toList_quote hq, ← h, Quoting.double_append, Quoting.double_append, hpair, hrest,
      hname]
    simp
  · refine continuesName_append_eq_false ?_ (Quoting.isWordChar_quotes hq).2
    have hhead := List.head?_dropWhile_not isWordChar rest
    rw [continuesName, Quoting.head?_double]
    cases hh : (rest.dropWhile isWordChar).head? with
    | none => rfl
    | some ch =>
      rw [hh] at hhead
      exact hhead

/-- Quotes add no placeholder to a name. -/
theorem holdsPlaceholder_of_quote (h : HoldsPlaceholder d (q.quote s)) : HoldsPlaceholder d s := by
  obtain ⟨hopening, hclosing⟩ := d.marker_ne_quotes hq
  rw [HoldsPlaceholder, Quoting.toList_quote hq, List.infix_cons_iff, List.cons_prefix_cons] at h
  obtain ⟨heq, -⟩ | h := h
  · exact absurd heq hopening
  · refine Quoting.pair_infix_of_double hclosing ((List.infix_concat_iff.mp h).resolve_left ?_)
    rintro ⟨before, hlast⟩
    have hp : 'p' = closing := by simpa using congrArg List.getLast? hlast
    exact closing_ne_p hq hp.symm

end Quoted

/-! ## Statements that read by a filter -/

namespace Compiler

section Templates

variable {c : Compiler} {d : Descriptor} {filter : List String}

/-- What is kept in putting templates together holds of the template if it holds of its pieces. -/
theorem selectTemplate_induction {P : Template → Prop} (hnil : P [])
    (happend : ∀ l k, P l → P k → Breaks k → P (l ++ k))
    (hplain : ∀ s t, c.dialect.marker ∉ s.toList → P t → P (.text s :: t))
    (hselect : P [.text (c.select d).sql])
    (hcondition : ∀ field ∈ filter,
      P [.text (c.quote field ++ "="), .place (.compared field)]) :
    P (c.selectTemplate d filter) := by
  have hmarker := @Dialect.marker_notMem_of_plain c.dialect
  have hconditions : P (c.conditionsTemplate filter) := by
    refine separated_induction hnil happend (fun t => hplain " AND " t (hmarker (by decide)))
      ⟨by decide, by decide⟩ fun t ht => ?_
    obtain ⟨field, hfield, rfl⟩ := List.mem_map.mp ht
    exact hcondition field hfield
  have hclause : P (c.whereTemplate filter) := by
    rw [whereTemplate]
    split_ifs
    · exact hnil
    · exact hplain " WHERE " _ (hmarker (by decide)) hconditions
  exact happend [.text (c.select d).sql] _ hselect hclause (c.breaks_whereTemplate filter)

theorem introduced_selectTemplate : Introduced c.quoting (c.selectTemplate d filter) :=
  selectTemplate_induction Introduced.nil (fun _ _ => Introduced.append)
    (fun s _ _ => Introduced.cons_text s) (Introduced.cons_text _ Introduced.nil)
    fun field _ => Introduced.compared c.quoting field

variable {opening closing : Char} (hq : c.quoting.quotes? = some (opening, closing))

include hq

/-- The text in front of the conditions holds a placeholder only if the table or a column does. -/
theorem not_holdsPlaceholder_select
    (hd : ∀ name ∈ d.table :: d.columns, ¬ HoldsPlaceholder c.dialect name) :
    ¬ HoldsPlaceholder c.dialect (c.select d).sql := by
  have hplain : ∀ {s : String}, s.toList.all (fun ch => ch ∉ ['@', '?', ':']) = true →
      ¬ HoldsPlaceholder c.dialect s :=
    fun h => not_holdsPlaceholder_of_notMem (c.dialect.marker_notMem_of_plain h)
  have hquote : ∀ name ∈ d.table :: d.columns, ¬ HoldsPlaceholder c.dialect (c.quote name) :=
    fun name hname h => hd name hname (holdsPlaceholder_of_quote hq h)
  have hlist : ¬ HoldsPlaceholder c.dialect (c.identifierList d.columns) ∧
      continuesName (c.identifierList d.columns).toList = false := by
    refine intercalate_induction
      (P := fun s => ¬ HoldsPlaceholder c.dialect s ∧ continuesName s.toList = false)
      ⟨hplain (by decide), by decide⟩ ?_ ⟨hplain (by decide), by decide⟩ ?_
    · rintro s t ⟨hs, hbreaks⟩ ⟨ht, hbreaks'⟩
      rw [String.toList_append]
      exact ⟨not_holdsPlaceholder_append hs ht hbreaks',
        continuesName_append_eq_false hbreaks hbreaks'⟩
    · intro item hitem
      obtain ⟨column, hcolumn, rfl⟩ := List.mem_map.mp hitem
      exact ⟨hquote column (List.mem_cons_of_mem _ hcolumn), continuesName_quote hq column⟩
  have hcolumns := not_holdsPlaceholder_append (hplain (s := "SELECT ") (by decide)) hlist.1 hlist.2
  have hfrom := not_holdsPlaceholder_append hcolumns (hplain (s := " FROM ") (by decide))
    (by decide)
  exact not_holdsPlaceholder_append hfrom (hquote d.table (by simp)) (continuesName_quote hq _)

theorem sparse_selectTemplate
    (hd : ∀ name ∈ d.table :: d.columns, ¬ HoldsPlaceholder c.dialect name)
    (hfilter : ∀ field ∈ filter, ¬ HoldsPlaceholder c.dialect field) :
    Sparse c.dialect (c.selectTemplate d filter) := by
  refine selectTemplate_induction Sparse.nil (fun _ _ => Sparse.append)
    (fun _ _ => Sparse.cons_text) (.text (not_holdsPlaceholder_select hq hd)) fun field hfield => ?_
  have hquote : ¬ HoldsPlaceholder c.dialect (c.quote field ++ "=") := by
    refine not_holdsPlaceholder_append
      (fun h => hfilter field hfield (holdsPlaceholder_of_quote hq h)) ?_ (by decide)
    exact not_holdsPlaceholder_of_notMem (c.dialect.marker_notMem_of_plain (by decide))
  exact (Sparse.text hquote).append (.compared (hfilter field hfield)) trivial

end Templates

theorem infix_intercalate {separator item : String} {items : List String} (h : item ∈ items) :
    item.toList <:+: (separator.intercalate items).toList := by
  induction items with
  | nil => cases h
  | cons first rest ih =>
    cases rest with
    | nil =>
      obtain rfl := List.mem_singleton.mp h
      simp
    | cons next rest =>
      rw [String.intercalate_cons_cons, String.toList_append, String.toList_append]
      rcases List.mem_cons.mp h with rfl | h
      · rw [List.append_assoc]
        exact (List.prefix_append _ _).isInfix
      · exact (ih h).trans (List.suffix_append _ _).isInfix

theorem quote_infix_select (c : Compiler) {d : Descriptor} {name : String}
    (h : name ∈ d.table :: d.columns) : (c.quote name).toList <:+: (c.select d).sql.toList := by
  rw [select, String.toList_append, String.toList_append, String.toList_append]
  rcases List.mem_cons.mp h with rfl | h
  · exact (List.suffix_append _ _).isInfix
  · have hlist : (c.quote name).toList <:+: (c.identifierList d.columns).toList :=
      infix_intercalate (List.mem_map_of_mem h)
    rw [List.append_assoc, List.append_assoc]
    exact hlist.trans ((List.prefix_append _ _).isInfix.trans (List.suffix_append _ _).isInfix)

/-! ## Placeholders that take their places -/

theorem takesPlaces_selectWhere_iff (c : Compiler) (hc : c.quoting ≠ .bare) (d : Descriptor)
    (filter : Parameters) :
    (c.selectWhere d filter).TakesPlaces c.dialect (c.selectTemplate d filter.names) ↔
      Unmistakable c.dialect (c.selectTemplate d filter.names) := by
  have hbindings : (c.selectWhere d filter).bindings =
      (c.selectTemplate d filter.names).places.map fun p =>
        p.bind c.dialect (p.value filter.valueOf filter.valueOf) := by
    rw [places_selectTemplate, ← c.bindings_wherePlaceholders filter filter.valueOf]
    rfl
  exact takesPlaces_iff hc introduced_selectTemplate (c.toList_sql_selectWhere d filter)
    hbindings

theorem positional?_selectWhere (c : Compiler) (d : Descriptor) (filter : Parameters)
    (h : (c.selectWhere d filter).TakesPlaces c.dialect (c.selectTemplate d filter.names))
    (style : MarkerStyle) :
    (c.selectWhere d filter).positional? style =
      some ⟨String.ofList (Template.positional style 0 (c.selectTemplate d filter.names)),
        filter.entries.map Prod.snd⟩ := by
  have hbindings : (c.selectWhere d filter).bindings =
      filter.entries.map fun e => ⟨c.filterPlaceholder e.1, e.2⟩ := rfl
  have hlength : (c.selectWhere d filter).bindings.length =
      (c.selectTemplate d filter.names).places.length := by
    rw [hbindings, places_selectTemplate, List.length_map, List.length_map, NamedValues.names,
      NamedValues.namesOf, List.length_map]
  rw [positional?_of_takesPlaces (c.toList_sql_selectWhere d filter) hlength h, hbindings,
    List.map_map]
  rfl

/-- Filters whose names hold no placeholder take their places in a statement whose table and columns
    hold none either. -/
theorem takesPlaces_of_not_holds (c : Compiler) (hc : c.quoting ≠ .bare) {d : Descriptor}
    (hd : ∀ name ∈ d.table :: d.columns, ¬ HoldsPlaceholder c.dialect name) {filter : Parameters}
    (hfilter : ∀ name ∈ filter.names, ¬ HoldsPlaceholder c.dialect name) :
    (c.selectWhere d filter).TakesPlaces c.dialect (c.selectTemplate d filter.names) := by
  obtain ⟨opening, closing, hq⟩ := Quoting.exists_quotes hc
  refine (c.takesPlaces_selectWhere_iff hc d filter).mpr
    (unmistakable_of_sparse (sparse_selectTemplate hq hd hfilter) fun p hp => ?_)
  rw [places_selectTemplate] at hp
  obtain ⟨field, -, rfl⟩ := List.mem_map.mp hp
  exact ⟨field, rfl⟩

/-- A table or column that holds a placeholder takes the value of some field that is named with word
    characters. -/
theorem exists_not_takesPlaces (c : Compiler) (hc : c.quoting ≠ .bare) {d : Descriptor}
    {name : String} (hname : name ∈ d.table :: d.columns) (h : HoldsPlaceholder c.dialect name) :
    ∃ filter : Parameters, (∀ field ∈ filter.names, IsName field) ∧
      ¬ (c.selectWhere d filter).TakesPlaces c.dialect (c.selectTemplate d filter.names) := by
  obtain ⟨opening, closing, hq⟩ := Quoting.exists_quotes hc
  obtain ⟨field, hfield, before, after, hquote, hne, hafter⟩ := exists_placeholder_of_holds hq h
  obtain ⟨front, back, hhead⟩ := c.quote_infix_select hname
  have hnames : (NamedValues.ofList [(field, .null)]).names = [field] := rfl
  refine ⟨.ofList [(field, .null)], ?_, ?_⟩
  · rw [hnames]
    exact List.forall_mem_singleton.mpr hfield
  rw [takesPlaces_selectWhere_iff c hc, hnames]
  intro hun
  obtain ⟨place, hstarts, hplace⟩ : ∃ place, starts c.dialect 0 (c.selectTemplate d [field]) =
      [(place, .compared field)] ∧ (c.select d).sql.length ≤ place :=
    ⟨0 + (c.select d).sql.length + 7 + (c.quote field ++ "=").length, rfl, by omega⟩
  have hnamed : named c.dialect (c.selectTemplate d [field]) = (front ++ before) ++
      ((Place.compared field).name c.dialect ++ (after ++ (back ++
        named c.dialect [.text " WHERE ", .text (c.quote field ++ "="),
          .place (.compared field)]))) := by
    have htemplate : c.selectTemplate d [field] = .text ((c.select d).sql) ::
        [.text " WHERE ", .text (c.quote field ++ "="), .place (.compared field)] := rfl
    rw [htemplate, named, ← hhead, quote, hquote]
    simp only [List.append_assoc]
  have hlt : (front ++ before).length < place := by
    refine Nat.lt_of_lt_of_le ?_ hplace
    rw [← String.length_toList, ← hhead, quote, hquote]
    simp only [List.length_append, Place.name, List.length_cons]
    omega
  have hword : c.dialect.marker ∉ (Place.compared field).word :=
    c.dialect.marker_notMem_of_isWordChar (Place.isWordChar_word hfield)
  have hstart := (hun (place, .compared field) (by rw [hstarts]; simp)).mem_starts hword hnamed
    (by rwa [continuesName_append hne]) hlt
  rw [hstarts, List.map_singleton, List.mem_singleton] at hstart
  exact absurd hstart hlt.ne

end Compiler

/-- **Placeholders among quoted names.** Take any dialect, any quoting but that of bare identifiers,
    any descriptor and any filter, with names of any characters.

    - Every binding of the statement that reads by the filter takes its own place just if the
      placeholder of no field stands whole before its place, away from every place. Then, in either
      style of markers, the statement has a positional form: it differs from the text in a marker at
      each place, and has the values of the filter in their order.
    - Every filter whose names hold no placeholder does so just if neither the table nor a column
      holds one. -/
theorem places_of_selectWhere (c : Compiler) (hc : c.quoting ≠ .bare) (d : Descriptor) :
    (∀ filter : Parameters,
      let statement := c.selectWhere d filter
      let template := c.selectTemplate d filter.names
      (statement.TakesPlaces c.dialect template ↔ Unmistakable c.dialect template) ∧
        (statement.TakesPlaces c.dialect template → ∀ style : MarkerStyle,
          statement.positional? style =
            some ⟨String.ofList (Template.positional style 0 template),
              filter.entries.map Prod.snd⟩)) ∧
    ((∀ filter : Parameters, (∀ name ∈ filter.names, ¬ HoldsPlaceholder c.dialect name) →
        (c.selectWhere d filter).TakesPlaces c.dialect (c.selectTemplate d filter.names)) ↔
      ∀ name ∈ d.table :: d.columns, ¬ HoldsPlaceholder c.dialect name) := by
  refine ⟨fun filter => ⟨c.takesPlaces_selectWhere_iff hc d filter,
    c.positional?_selectWhere d filter⟩, fun h name hname hholds => ?_,
    fun hd filter hfilter => c.takesPlaces_of_not_holds hc hd hfilter⟩
  obtain ⟨filter, hfilter, hnot⟩ := c.exists_not_takesPlaces hc hname hholds
  exact hnot (h filter fun field hfield => not_holdsPlaceholder_of_isName (hfilter field hfield))

/-- Brackets, blanks, dashes, dots and single markers in names do no harm. -/
theorem places_of_selectWhere_brackets :
    let c : Compiler := { quoting := .brackets }
    let filter : Parameters := .ofList [("a b]", .int 1), ("x@y-z.w", .int 2), ("a", .int 3)]
    (c.selectWhere Schema.twins.descriptor filter).positional? .question =
      some ⟨"SELECT [Id], [pId] FROM [T] WHERE [a b]]]=? AND [x@y-z.w]=? AND [a]=?",
        [.int 1, .int 2, .int 3]⟩ := by
  intro c filter
  have hplaces := places_of_selectWhere c (by decide) Schema.twins.descriptor
  have hnames : ∀ name ∈ ["a b]", "x@y-z.w", "a"], ¬ HoldsPlaceholder c.dialect name := by decide
  have htakes := hplaces.2.mpr (by decide) filter hnames
  refine ((hplaces.1 filter).2 htakes .question).trans ?_
  decide

/-- A schema with a column that is named as a placeholder is. -/
def Schema.marked : Schema where
  name := "T"
  members := [⟨"@pa b", .scalar .numeric, false⟩]

/-- A value can go into the name of a column, and the next one in front of a part of a placeholder;
    and two names that claim places that overlap leave no positional form at all. -/
theorem selectWhere_marked :
    let c : Compiler := { quoting := .brackets }
    let misplaced := c.selectWhere Schema.marked.descriptor
      (.ofList [("a b", .int 1), ("a", .int 2)])
    let overlapping := c.selectWhere Schema.twins.descriptor
      (.ofList [("x@p]a", .int 1), ("]a", .int 2)])
    misplaced.sql = "SELECT [@pa b] FROM [T] WHERE [a b]=@pa b AND [a]=@pa" ∧
      misplaced.positional? .question =
        some ⟨"SELECT [?] FROM [T] WHERE [a b]=? b AND [a]=@pa", [.int 1, .int 2]⟩ ∧
      overlapping.positional? .question = none := by
  refine ⟨?_, ?_, ?_⟩
  · rfl
  · rfl
  · rfl

end RecordSql
