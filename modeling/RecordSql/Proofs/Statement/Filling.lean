import RecordSql.Proofs.Statement.Placement

/-!
# Filling places

Which values the places of a template get from the bindings of a statement, for the orders in which
statements are bound.

* `fill_bind`: bindings in the order of the places keep their values in this order.
* `fill_append_left`: bindings whose names stand at no place do not matter.
* `fill_of_agreement`: if places of one name mean one value, the order of the bindings does not
  matter.
* `find?_fill`: the first place of a name takes the first binding of that name.
* `sends_of_fill`, `means_of_bindings`: what a statement sends, and that a statement that is bound
  in order means what its bindings say.
-/

namespace RecordSql

open Text Positional Template

/-! ## Values for places -/

/-- The value for a place, by the values that fields are given and those that they are compared
    with. -/
def Place.value (assigned compared : String → Value) : Place → Value
  | .assigned field => assigned field
  | .compared field => compared field

/-- The binding of a place to a value. -/
def Place.bind (d : Dialect) (p : Place) (v : Value) : Binding :=
  ⟨String.ofList (p.name d), v⟩

theorem Place.toList_name_bind (d : Dialect) (p : Place) (v : Value) :
    (p.bind d v).name.toList = p.name d := String.toList_ofList

theorem Place.isPlaceholder_of_mem {d : Dialect} {places : List Place} {meant : Place → Value}
    (h : ∀ p ∈ places, IsName p.field) :
    ∀ b ∈ places.map fun p => p.bind d (meant p), b.IsPlaceholder d := by
  intro b hb
  obtain ⟨p, hp, rfl⟩ := List.mem_map.mp hb
  exact ⟨p.word, isWordChar_word (h p hp), toList_name_bind d p _⟩

/-! ## Orders of bindings -/

namespace Template

theorem fill_cons {name : List Char} {names : List (List Char)} {bindings : List Binding}
    {b : Binding} (hb : (bindings.find? fun b => b.name.toList = name) = some b) :
    fill (name :: names) bindings =
      (fill names (bindings.eraseP fun b => b.name.toList = name)).map (b.value :: ·) := by
  rw [fill, hb]
  cases fill names (bindings.eraseP fun b => b.name.toList = name) <;> rfl

/-- Bindings in the order of the places keep their values in this order. -/
theorem fill_bind (d : Dialect) (places : List Place) (meant : Place → Value) :
    fill (places.map (Place.name d)) (places.map fun p => p.bind d (meant p)) =
      some (places.map meant) := by
  induction places with
  | nil => rfl
  | cons p places ih =>
    have hp : ((p :: places).map fun p => p.bind d (meant p)).find?
        (fun b => b.name.toList = p.name d) = some (p.bind d (meant p)) := by
      simp [Place.toList_name_bind]
    rw [List.map_cons, fill_cons hp, List.map_cons, List.eraseP_cons_of_pos, ih]
    · rfl
    · simp [Place.toList_name_bind]

theorem fill_append_left {names : List (List Char)} {unused bindings : List Binding}
    (h : ∀ b ∈ unused, b.name.toList ∉ names) :
    fill names (unused ++ bindings) = fill names bindings := by
  induction names generalizing bindings with
  | nil => rfl
  | cons name names ih =>
    have hne : ∀ b ∈ unused, ¬ (b.name.toList = name) := by
      intro b hb hname
      exact h b hb (by simp [hname])
    have hfind : (unused.find? fun b => b.name.toList = name) = none := by simpa using hne
    have herase : (unused ++ bindings).eraseP (fun b => b.name.toList = name) =
        unused ++ bindings.eraseP fun b => b.name.toList = name :=
      List.eraseP_append_right bindings (by simpa using hne)
    have hunused : ∀ b ∈ unused, b.name.toList ∉ names :=
      fun b hb hmem => h b hb (List.mem_cons_of_mem _ hmem)
    have hrest := fun rest => @ih rest hunused
    rw [fill, fill, List.find?_append, hfind, Option.none_or, herase, hrest]

/-- If there is a binding for every place, then every place gets the value of a binding of its
    name. -/
theorem exists_fill {names : List (List Char)} {bindings : List Binding}
    (hnames : names.Subperm (bindings.map fun b => b.name.toList)) :
    ∃ values, fill names bindings = some values ∧
      List.Forall₂ (fun name v => ∃ b ∈ bindings, b.name.toList = name ∧ b.value = v)
        names values := by
  induction names generalizing bindings with
  | nil => exact ⟨[], rfl, .nil⟩
  | cons name names ih =>
    have hmem := hnames.subset List.mem_cons_self
    have hrest := hnames.erase name
    rw [List.erase_cons_head] at hrest
    obtain ⟨c, hc, hcname⟩ := List.mem_map.mp hmem
    cases hf : bindings.find? fun b => b.name.toList = name with
    | none => exact absurd hcname (by simpa using List.find?_eq_none.mp hf c hc)
    | some b =>
      have hbname : b.name.toList = name := by simpa using List.find?_some hf
      have herase : ((bindings.map fun b => b.name.toList).erase name) =
          (bindings.eraseP fun b => b.name.toList = name).map fun b => b.name.toList := by
        rw [List.erase_eq_eraseP, List.eraseP_map]
        congr 2
        funext x
        simp [Bool.beq_eq_decide_eq, eq_comm]
      obtain ⟨values, hfill, hall⟩ := ih (herase ▸ hrest)
      refine ⟨b.value :: values, ?_, .cons ⟨b, List.mem_of_find?_eq_some hf, hbname, rfl⟩ ?_⟩
      · rw [fill_cons hf, hfill]
        rfl
      · refine hall.imp ?_
        rintro other v ⟨x, hx, hname, hvalue⟩
        exact ⟨x, List.mem_of_mem_eraseP hx, hname, hvalue⟩

theorem names_perm_of_bind {d : Dialect} {places : List Place} {meant : Place → Value}
    {bindings : List Binding} (hb : (places.map fun p => p.bind d (meant p)).Perm bindings) :
    (places.map (Place.name d)).Perm (bindings.map fun b => b.name.toList) := by
  simpa [Function.comp_def, Place.toList_name_bind] using hb.map fun b => b.name.toList

/-- If every binding is one for a place and places of one name mean one value, then it does not
    matter in which order they are bound. -/
theorem fill_of_agreement {d : Dialect} {places : List Place} {meant : Place → Value}
    {bindings : List Binding} (hb : (places.map fun p => p.bind d (meant p)).Perm bindings)
    (hagree : ∀ p ∈ places, ∀ q ∈ places, p.name d = q.name d → meant p = meant q) :
    fill (places.map (Place.name d)) bindings = some (places.map meant) := by
  obtain ⟨values, hfill, hall⟩ := exists_fill (names_perm_of_bind hb).subperm
  rw [hfill, Option.some_inj]
  rw [List.forall₂_map_left_iff] at hall
  refine List.ext_getElem (by rw [List.length_map, hall.length_eq]) fun i hi hi' => ?_
  have hplace : i < places.length := by simpa using hi'
  obtain ⟨b, hmem, hname, hvalue⟩ := hall.get hplace hi
  obtain ⟨q, hq, rfl⟩ := List.mem_map.mp (hb.mem_iff.mpr hmem)
  rw [Place.toList_name_bind] at hname
  rw [List.getElem_map]
  exact hvalue.symm.trans (hagree q hq _ (List.getElem_mem hplace) hname)

theorem find?_eraseP_of_ne {name other : List Char} (h : name ≠ other) (bindings : List Binding) :
    (bindings.eraseP fun b => b.name.toList = name).find? (fun b => b.name.toList = other) =
      bindings.find? fun b => b.name.toList = other := by
  induction bindings with
  | nil => rfl
  | cons b rest ih =>
    by_cases hb : b.name.toList = name
    · simp [hb, h]
    · rw [List.eraseP_cons_of_neg (by simpa using hb), List.find?_cons, List.find?_cons, ih]

/-- The first place of a name takes the first binding of that name. -/
theorem find?_fill {names : List (List Char)} {bindings : List Binding} {values : List Value}
    (h : fill names bindings = some values) {name : List Char} (hname : name ∈ names) :
    ((names.zip values).find? fun e => e.1 = name).map Prod.snd =
      (bindings.find? fun b => b.name.toList = name).map Binding.value := by
  induction names generalizing bindings values with
  | nil => simp at hname
  | cons first names ih =>
    simp only [fill, Option.bind_eq_bind, Option.bind_eq_some_iff, Option.pure_def,
      Option.some.injEq] at h
    obtain ⟨b, hb, rest, hrest, rfl⟩ := h
    by_cases hfirst : first = name
    · subst hfirst
      simp [hb]
    · have hmem : name ∈ names := by
        rcases List.mem_cons.mp hname with rfl | hmem
        · contradiction
        · exact hmem
      rw [List.zip_cons_cons, List.find?_cons_of_neg (by simpa using hfirst), ih hrest hmem,
        find?_eraseP_of_ne hfirst]

end Template

/-! ## What statements send -/

/-- The text of the statement is the template, whose places are all the placeholders in it, and in
    either style its positional form has a marker at each of them, one of the values for each
    marker, and no named placeholder. -/
structure Statement.Sends (s : Statement) (d : Dialect) (t : Template) (values : List Value) :
    Prop where
  wellFormed : WellFormed d t
  text : s.sql.toList = named d t
  complete : values.length = t.places.length
  positional (style : MarkerStyle) :
    s.positional? style = some ⟨String.ofList (positional style 0 t), values⟩
  unnamed (style : MarkerStyle) : ¬ HasNamed d.marker (Template.positional style 0 t)

/-- The statement sends for every place of its template the value that is meant there. -/
def Statement.Means (s : Statement) (d : Dialect) (t : Template) (meant : Place → Value) : Prop :=
  s.Sends d t (t.places.map meant)

theorem sends_of_fill {d : Dialect} {t : Template} (ht : WellFormed d t) {s : Statement}
    (hsql : s.sql.toList = named d t) {values : List Value}
    (hb : ∀ b ∈ s.bindings, b.IsPlaceholder d)
    (hfill : fill (t.places.map (Place.name d)) s.bindings = some values) :
    s.Sends d t values := by
  refine ⟨ht, hsql, ?_, fun style => positional?_eq ht hsql hb hfill style,
    fun style => not_hasNamed_positional ht style 0⟩
  rw [length_fill hfill, List.length_map]

/-- A statement that binds its places in order means what its bindings say. -/
theorem means_of_bindings {d : Dialect} {t : Template} (ht : WellFormed d t) {s : Statement}
    (hsql : s.sql.toList = named d t) {meant : Place → Value}
    (hb : s.bindings = t.places.map fun p => p.bind d (meant p)) :
    s.Means d t meant := by
  refine sends_of_fill ht hsql ?_ ?_
  · rw [hb]
    exact Place.isPlaceholder_of_mem fun p hp => ht.isName_field hp
  · rw [hb]
    exact fill_bind d t.places meant

end RecordSql
