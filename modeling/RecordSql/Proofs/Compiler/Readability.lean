import RecordSql.Proofs.Compiler.Insertion

/-!
# Readability of quoted statements

Statements with quoted identifiers can be read in one way only, whatever characters the tables and
fields are named with: the text tells which table, which columns and which fields it was made from,
each list in its order. Bare identifiers could imitate the text around them.

* `Readable.separated`: a list of items that can be read is one that can be read, if its separator
  and its end are told apart.
* `readable_quote`, `readable_assignment`, `readable_placeholderCondition`: the items that
  statements are made of.
* `Compiler.whereClause_injective`: a clause tells its conditions, if each of them can be read.
* `names_of_text`: what the texts of statements tell.
-/

namespace RecordSql

/-! ## Texts that can be read -/

/-- The text of an item can be read off the front of a text if one of these follows it. -/
def Readable {α : Type} (text : α → List Char) (Follows : List Char → Prop) : Prop :=
  ∀ ⦃a b rest rest'⦄, Follows rest → Follows rest' → text a ++ rest = text b ++ rest' →
    a = b ∧ rest = rest'

/-- The texts of items, each behind a separator. -/
def textBehind {α : Type} (separator : List Char) (text : α → List Char) (items : List α) :
    List Char :=
  items.flatMap fun a => separator ++ text a

namespace Readable

variable {α : Type} {text : α → List Char} {Follows Ends : List Char → Prop}
  {separator : List Char}

theorem injective (h : Readable text Follows) (hnil : Follows []) : Function.Injective text :=
  fun _ _ heq => (h hnil hnil (congrArg (· ++ []) heq)).1

theorem mono {Follows' : List Char → Prop} (h : Readable text Follows)
    (hfollows : ∀ rest, Follows' rest → Follows rest) : Readable text Follows' :=
  fun _ _ _ _ hrest hrest' heq => h (hfollows _ hrest) (hfollows _ hrest') heq

theorem textBehind_cons_append (a : α) (items : List α) (rest : List Char) :
    textBehind separator text (a :: items) ++ rest =
      separator ++ (text a ++ (textBehind separator text items ++ rest)) := by
  rw [textBehind, List.flatMap_cons, List.append_assoc, List.append_assoc]
  rfl

theorem intercalate_map_cons_append (a : α) (items : List α) (rest : List Char) :
    separator.intercalate ((a :: items).map text) ++ rest =
      text a ++ (textBehind separator text items ++ rest) := by
  induction items generalizing a with
  | nil => simp [textBehind]
  | cons b items ih =>
    rw [textBehind_cons_append, ← ih b, List.map_cons, List.map_cons, List.intercalate_cons_cons,
      List.append_assoc, List.append_assoc]

theorem follows_textBehind (hseparator : ∀ cs, Follows (separator ++ cs)) {rest : List Char}
    (hrest : Follows rest) (items : List α) :
    Follows (textBehind separator text items ++ rest) := by
  cases items with
  | nil => exact hrest
  | cons a items =>
    rw [textBehind_cons_append]
    exact hseparator _

/-- Items behind separators can be read up to an end that does not begin with a separator. -/
theorem behind (h : Readable text Follows) (hseparator : ∀ cs, Follows (separator ++ cs))
    (hends : ∀ rest, Ends rest → Follows rest ∧ ¬ separator <+: rest) :
    Readable (textBehind separator text) Ends := by
  have hmore : ∀ {a items rest rest'}, Ends rest →
      rest ≠ textBehind separator text (a :: items) ++ rest' := by
    intro a items rest rest' hrest heq
    rw [textBehind_cons_append] at heq
    exact (hends rest hrest).2 ⟨_, heq.symm⟩
  intro items
  induction items with
  | nil =>
    intro items' rest rest' hrest hrest' heq
    cases items' with
    | nil => exact ⟨rfl, heq⟩
    | cons b items' => exact absurd heq (hmore hrest)
  | cons a items ih =>
    intro items' rest rest' hrest hrest' heq
    cases items' with
    | nil => exact absurd heq.symm (hmore hrest')
    | cons b items' =>
      rw [textBehind_cons_append, textBehind_cons_append, List.append_cancel_left_eq] at heq
      obtain ⟨rfl, htail⟩ := h (follows_textBehind hseparator (hends rest hrest).1 items)
        (follows_textBehind hseparator (hends rest' hrest').1 items') heq
      obtain ⟨rfl, hend⟩ := ih hrest hrest' htail
      exact ⟨rfl, hend⟩

/-- Items with separators between them can be read up to an end that begins neither with a separator
    nor with an item. -/
theorem separated (h : Readable text Follows) (Ends : List Char → Prop)
    (hseparator : ∀ cs, Follows (separator ++ cs))
    (hends : ∀ rest, Ends rest → Follows rest ∧ ¬ separator <+: rest ∧ ∀ a, ¬ text a <+: rest) :
    Readable (fun items : List α => separator.intercalate (items.map text)) Ends := by
  have htail : Readable (textBehind separator text) Ends :=
    h.behind hseparator fun rest hrest => ⟨(hends rest hrest).1, (hends rest hrest).2.1⟩
  have hmore : ∀ {a items rest rest'}, Ends rest →
      rest ≠ separator.intercalate ((a :: items).map text) ++ rest' := by
    intro a items rest rest' hrest heq
    rw [intercalate_map_cons_append] at heq
    exact (hends rest hrest).2.2 a ⟨_, heq.symm⟩
  intro items items' rest rest' hrest hrest' heq
  cases items with
  | nil =>
    cases items' with
    | nil => exact ⟨rfl, heq⟩
    | cons b items' => exact absurd heq (hmore hrest)
  | cons a items =>
    cases items' with
    | nil => exact absurd heq.symm (hmore hrest')
    | cons b items' =>
      simp only [intercalate_map_cons_append] at heq
      obtain ⟨rfl, hitems⟩ := h (follows_textBehind hseparator (hends rest hrest).1 items)
        (follows_textBehind hseparator (hends rest' hrest').1 items') heq
      obtain ⟨rfl, hend⟩ := htail hrest hrest' hitems
      exact ⟨rfl, hend⟩

end Readable

/-! ## Items of statements -/

/-- The text is at its end or goes on with a blank. -/
def Pauses (cs : List Char) : Prop :=
  ∀ ch ∈ cs.head?, ch = ' '

theorem pauses_nil : Pauses [] := nofun

theorem pauses_append {s : String} (h : s.toList.head? = some ' ') (cs : List Char) :
    Pauses (s.toList ++ cs) := by
  intro ch hch
  rw [List.head?_append, h] at hch
  exact (Option.some.inj hch).symm

namespace Compiler

/-! ## Clauses -/

section Clause

variable {α : Type} {condition : α → String}
  (hcondition : Readable (fun a => (condition a).toList) Pauses) (hne : ∀ a, condition a ≠ "")

include hcondition hne

theorem readable_conditions :
    Readable (fun items : List α => (" AND ".intercalate (items.map condition)).toList)
      (· = []) := by
  have hend : ∀ rest, rest = [] →
      Pauses rest ∧ ¬ " AND ".toList <+: rest ∧ ∀ a, ¬ (condition a).toList <+: rest := by
    rintro _ rfl
    refine ⟨pauses_nil, by simp, fun a hprefix => hne a ?_⟩
    exact String.toList_eq_nil_iff.mp (List.prefix_nil.mp hprefix)
  have hlist := hcondition.separated (· = []) (pauses_append (by decide)) hend
  simpa [String.toList_intercalate, Function.comp_def] using hlist

/-- A clause tells its conditions, if any. -/
theorem whereClause_injective :
    Function.Injective fun items : List α => (whereClause (items.map condition)).toList := by
  have hsome : ∀ (a : α) (items : List α), (whereClause ((a :: items).map condition)).toList =
      " WHERE ".toList ++ (" AND ".intercalate ((a :: items).map condition)).toList := by
    intro a items
    rw [whereClause, if_neg (by simp), String.toList_append]
  intro items items' heq
  cases items with
  | nil =>
    cases items' with
    | nil => rfl
    | cons a' items' =>
      have hnil : [] = _ := heq.trans (hsome a' items')
      simp at hnil
  | cons a items =>
    cases items' with
    | nil =>
      have hnil : _ = [] := (hsome a items).symm.trans heq
      simp at hnil
    | cons a' items' =>
      have hconditions := (hsome a items).symm.trans (heq.trans (hsome a' items'))
      exact (readable_conditions hcondition hne).injective rfl
        (List.append_cancel_left hconditions)

end Clause

section Quoted

variable {c : Compiler} {opening closing : Char}
  (hc : c.quoting.quotes? = some (opening, closing))

include hc

/-- A quoted identifier can be read if the text does not go on with another closing quote. -/
theorem readable_quote :
    Readable (fun identifier => (c.quote identifier).toList)
      fun rest => rest.head? ≠ some closing :=
  fun _ _ _ _ h h' heq => Quoting.quote_append_inj hc h h' heq

/-- A quoted field with what is written behind an equality sign can be read whatever follows it: the
    field says how long the rest of the item is. -/
theorem readable_quote_eq {item : String → String} {placeholder : String → String}
    (hitem : ∀ field, item field = c.quote field ++ "=" ++ placeholder field) :
    Readable (fun field => (item field).toList) fun _ => True := by
  have hequals : ∀ cs : List Char, ('=' :: cs).head? ≠ some closing :=
    fun cs h => (Quoting.quotes_ne hc).2.2.2 (Option.some.inj h).symm
  intro a b rest rest' _ _ heq
  simp only [hitem, String.toList_append, List.append_assoc] at heq
  obtain ⟨rfl, htail⟩ := readable_quote hc (hequals _) (hequals _) heq
  exact ⟨rfl, List.append_cancel_left (List.cons.inj htail).2⟩

theorem readable_assignment : Readable (fun field => (c.assignment field).toList) fun _ => True :=
  readable_quote_eq hc fun _ => rfl

theorem readable_placeholderCondition :
    Readable (fun field => (c.placeholderCondition field).toList) fun _ => True :=
  readable_quote_eq hc fun _ => rfl

/-- A blank is not the beginning of a quoted identifier. -/
theorem not_quote_prefix {rest : List Char} (hrest : Pauses rest) (identifier : String) :
    ¬ (c.quote identifier).toList <+: rest := by
  rintro ⟨after, rfl⟩
  rw [quote, Quoting.toList_quote hc] at hrest
  exact (Quoting.quotes_ne hc).1 (hrest opening rfl)

/-! ## Lists of statements -/

theorem pauses_follows {rest : List Char} (hrest : Pauses rest) : rest.head? ≠ some closing :=
  fun h => (Quoting.quotes_ne hc).2.1 (hrest closing h)

omit hc in
theorem not_comma_prefix {rest : List Char} (hrest : Pauses rest) : ¬ ", ".toList <+: rest := by
  rintro ⟨after, rfl⟩
  exact absurd (hrest ',' rfl) (by decide)

theorem readable_identifierList :
    Readable (fun identifiers : List String => (c.identifierList identifiers).toList) Pauses := by
  have hcomma : ∀ cs, (", ".toList ++ cs).head? ≠ some closing :=
    fun _ h => (Quoting.quotes_ne hc).2.2.1 (Option.some.inj h).symm
  have hlist := (readable_quote hc).separated Pauses hcomma
    fun rest hrest => ⟨pauses_follows hc hrest, not_comma_prefix hrest, not_quote_prefix hc hrest⟩
  simpa [identifierList, commaSeparated, String.toList_intercalate, Function.comp_def] using hlist

theorem readable_assignments :
    Readable (fun fields : List String => (commaSeparated (fields.map c.assignment)).toList)
      Pauses := by
  have hlist := (readable_assignment hc).separated Pauses (fun _ => trivial)
    fun rest hrest => ⟨trivial, not_comma_prefix hrest, fun field hfield => by
      refine not_quote_prefix hc hrest field (List.IsPrefix.trans ?_ hfield)
      rw [assignment, String.append_assoc, String.toList_append]
      exact List.prefix_append _ _⟩
  simpa [commaSeparated, String.toList_intercalate, Function.comp_def] using hlist

/-- The end of a statement tells which fields it compares, if any. -/
theorem whereClause_placeholders_injective :
    Function.Injective fun fields : List String =>
      (whereClause (fields.map c.placeholderCondition)).toList :=
  whereClause_injective ((readable_placeholderCondition hc).mono fun _ _ => trivial) fun field => by
    simp [placeholderCondition]

end Quoted

theorem pauses_whereClause (conditions : List String) : Pauses (whereClause conditions).toList := by
  rw [whereClause]
  split_ifs
  · exact pauses_nil
  · rw [String.toList_append]
    exact pauses_append (by decide) _

/-! ## Statements -/

section Statements

variable {c : Compiler} {opening closing : Char}
  (hc : c.quoting.quotes? = some (opening, closing)) {d d' : Descriptor}
  {values values' filter filter' : Parameters}

include hc

/-- A table and the clause behind it can be told apart. -/
theorem quote_whereClause_inj {table table' : String} {fields fields' : List String}
    (h : (c.quote table).toList ++ (whereClause (fields.map c.placeholderCondition)).toList =
      (c.quote table').toList ++ (whereClause (fields'.map c.placeholderCondition)).toList) :
    table = table' ∧ fields = fields' := by
  obtain ⟨htable, hclause⟩ := readable_quote hc (pauses_follows hc (pauses_whereClause _))
    (pauses_follows hc (pauses_whereClause _)) h
  exact ⟨htable, whereClause_placeholders_injective hc hclause⟩

theorem sql_selectWhere_inj (h : (c.selectWhere d filter).sql = (c.selectWhere d' filter').sql) :
    d.table = d'.table ∧ d.columns = d'.columns ∧ filter.names = filter'.names := by
  have hsql : ∀ (d : Descriptor) (filter : Parameters), (c.selectWhere d filter).sql.toList =
      "SELECT ".toList ++ ((c.identifierList d.columns).toList ++ (" FROM ".toList ++
        ((c.quote d.table).toList ++
          (whereClause (filter.names.map c.placeholderCondition)).toList))) := by
    intro d filter
    simp only [← String.toList_append, ← String.append_assoc]
    rfl
  have htext := congrArg String.toList h
  rw [hsql, hsql, List.append_cancel_left_eq] at htext
  obtain ⟨hcolumns, hrest⟩ := readable_identifierList hc (pauses_append (by decide) _)
    (pauses_append (by decide) _) htext
  obtain ⟨htable, hfilter⟩ := quote_whereClause_inj hc (List.append_cancel_left hrest)
  exact ⟨htable, hcolumns, hfilter⟩

theorem sql_delete_inj (h : (c.delete d filter).sql = (c.delete d' filter').sql) :
    d.table = d'.table ∧ filter.names = filter'.names := by
  have hsql : ∀ (d : Descriptor) (filter : Parameters), (c.delete d filter).sql.toList =
      "DELETE FROM ".toList ++ ((c.quote d.table).toList ++
        (whereClause (filter.names.map c.placeholderCondition)).toList) := by
    intro d filter
    simp only [← String.toList_append, ← String.append_assoc]
    rfl
  have htext := congrArg String.toList h
  rw [hsql, hsql] at htext
  exact quote_whereClause_inj hc (List.append_cancel_left htext)

theorem sql_update_inj
    (h : (c.update d values filter).sql = (c.update d' values' filter').sql) :
    d.table = d'.table ∧ updateFields d values = updateFields d' values' ∧
      filter.names = filter'.names := by
  have hsql : ∀ (d : Descriptor) (values filter : Parameters),
      (c.update d values filter).sql.toList =
        "UPDATE ".toList ++ ((c.quote d.table).toList ++ (" SET ".toList ++
          ((commaSeparated ((updateFields d values).map c.assignment)).toList ++
            (whereClause (filter.names.map c.placeholderCondition)).toList))) := by
    intro d values filter
    simp only [← String.toList_append, ← String.append_assoc]
    rfl
  have htext := congrArg String.toList h
  rw [hsql, hsql, List.append_cancel_left_eq] at htext
  obtain ⟨htable, hrest⟩ := readable_quote hc
    (pauses_follows hc (pauses_append (by decide) _))
    (pauses_follows hc (pauses_append (by decide) _)) htext
  obtain ⟨hfields, hclause⟩ := readable_assignments hc (pauses_whereClause _)
    (pauses_whereClause _) (List.append_cancel_left hrest)
  exact ⟨htable, hfields, whereClause_placeholders_injective hc hclause⟩

end Statements

end Compiler

/-- **One way to read a statement.** In every dialect and with every quoting but that of bare
    identifiers, and for tables, columns and fields of any names in lists of any length,

    - two statements that read have one text just if they have the same table, the same columns and
      the same compared fields, in order;
    - two statements that delete have one text just if they have the same table and the same
      compared fields, in order;
    - two statements that update have one text just if they have the same table, the same assigned
      fields, which are all columns if no values are given, and the same compared fields, in order;
    - quoted identifiers are told apart, and the reader gives an identifier back whatever stands
      behind it, as long as that does not begin with another closing quote. -/
theorem names_of_text (c : Compiler) (hc : c.quoting ≠ .bare) :
    (∀ (d d' : Descriptor) (filter filter' : Parameters),
      (c.selectWhere d filter).sql = (c.selectWhere d' filter').sql ↔
        d.table = d'.table ∧ d.columns = d'.columns ∧ filter.names = filter'.names) ∧
    (∀ (d d' : Descriptor) (filter filter' : Parameters),
      (c.delete d filter).sql = (c.delete d' filter').sql ↔
        d.table = d'.table ∧ filter.names = filter'.names) ∧
    (∀ (d d' : Descriptor) (values values' filter filter' : Parameters),
      (c.update d values filter).sql = (c.update d' values' filter').sql ↔
        d.table = d'.table ∧
          (if values.isEmpty then d.columns else values.names) =
            (if values'.isEmpty then d'.columns else values'.names) ∧
          filter.names = filter'.names) ∧
    Function.Injective c.quote ∧
    ∀ (identifier : String) (rest : List Char),
      (∀ quotes ∈ c.quoting.quotes?, rest.head? ≠ some quotes.2) →
        c.quoting.read? ((c.quote identifier).toList ++ rest) = some (identifier, rest) := by
  obtain ⟨opening, closing, hquotes⟩ := Quoting.exists_quotes hc
  refine ⟨?_, ?_, ?_, c.quoting.quote_injective, fun identifier rest h =>
    Quoting.read?_quote hquotes (h _ hquotes) identifier⟩
  · intro d d' filter filter'
    refine ⟨Compiler.sql_selectWhere_inj hquotes, ?_⟩
    rintro ⟨htable, hcolumns, hfilter⟩
    simp only [← String.toList_inj, Compiler.toList_sql_selectWhere, Compiler.selectTemplate,
      htable, hcolumns, hfilter]
  · intro d d' filter filter'
    refine ⟨Compiler.sql_delete_inj hquotes, ?_⟩
    rintro ⟨htable, hfilter⟩
    simp only [← String.toList_inj, Compiler.toList_sql_delete, Compiler.deleteTemplate, htable,
      hfilter]
  · intro d d' values values' filter filter'
    refine ⟨Compiler.sql_update_inj hquotes, ?_⟩
    rintro ⟨htable, hassigned, hfilter⟩
    have hfields : Compiler.updateFields d values = Compiler.updateFields d' values' := hassigned
    simp only [← String.toList_inj, Compiler.toList_sql_update, Compiler.updateTemplate, htable,
      hfields, hfilter]

/-- A field that imitates two conditions is still one field, and the closing bracket in its name is
    read as a character of it. -/
theorem names_of_text_brackets :
    let c : Compiler := { quoting := .brackets }
    let two : Parameters := .ofList [("a", .int 1), ("b", .int 2)]
    let one : Parameters := .ofList [("a]=@pa AND [b", .int 1)]
    (c.delete Schema.twins.descriptor two).sql ≠ (c.delete Schema.twins.descriptor one).sql ∧
      c.quoting.read? ((c.quote "a]b").toList ++ " FROM".toList) =
        some ("a]b", " FROM".toList) := by
  intro c two one
  have hnames := names_of_text c (by decide)
  refine ⟨fun h => ?_, hnames.2.2.2.2 "a]b" " FROM".toList (by decide)⟩
  exact absurd ((hnames.2.1 _ _ _ _).mp h).2 (by decide)

end RecordSql
