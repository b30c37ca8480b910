import RecordSql.Proofs.Statement.Filling

/-!
# Exchanging markers

A statement of one dialect with the marker of another in place of its own. Where the marker stands
at placeholders only, this changes the names of the places and of the bindings alike, and the
positional form not at all: it comes from which names are equal.

* `Template.exchangeChars_named`: a template, written with the other marker.
* `Template.fill_rename`, `Template.fill_exchange`: places get their values by any names that are
  as different as theirs.
* `Statement.eq_exchange`, `Statement.sameForm_exchange`: statements that are written from one
  template for two dialects.
-/

namespace RecordSql

open Text Positional

/-! ## Texts -/

namespace Dialect

variable {d : Dialect} (d' : Dialect)

/-- The characters with the marker of another dialect in place of the marker. -/
def exchangeChars (d d' : Dialect) (cs : List Char) : List Char :=
  cs.map fun ch => if ch = d.marker then d'.marker else ch

/-- The text with the marker of another dialect in place of the marker. -/
def exchange (d d' : Dialect) (s : String) : String :=
  String.ofList (d.exchangeChars d' s.toList)

theorem exchangeChars_of_notMem {cs : List Char} (h : d.marker ∉ cs) :
    d.exchangeChars d' cs = cs := by
  refine (List.map_congr_left fun ch hch => ?_).trans (List.map_id cs)
  have hne : ch ≠ d.marker := fun heq => h (heq ▸ hch)
  rw [if_neg hne, id]

theorem exchangeChars_placeholder {w : List Char} (h : ∀ ch ∈ w, isWordChar ch = true) :
    d.exchangeChars d' (d.marker :: w) = d'.marker :: w := by
  have hw : d.exchangeChars d' w = w :=
    exchangeChars_of_notMem d' (d.marker_notMem_of_isWordChar h)
  rw [exchangeChars, List.map_cons, if_pos rfl, ← exchangeChars, hw]

theorem exchangeChars_append (cs ds : List Char) :
    d.exchangeChars d' (cs ++ ds) = d.exchangeChars d' cs ++ d.exchangeChars d' ds :=
  List.map_append

end Dialect

theorem Place.exchangeChars_name {d : Dialect} (d' : Dialect) {p : Place} (h : IsName p.field) :
    d.exchangeChars d' (p.name d) = p.name d' :=
  Dialect.exchangeChars_placeholder d' (isWordChar_word h)

/-- The text of a template, with the other marker at each of its places. -/
theorem Template.exchangeChars_named {d : Dialect} (d' : Dialect) {t : Template}
    (ht : WellFormed d t) : d.exchangeChars d' (named d t) = named d' t := by
  induction t with
  | nil => rfl
  | cons piece t ih =>
    cases piece with
    | text s =>
      rw [named, named, Dialect.exchangeChars_append, Dialect.exchangeChars_of_notMem d' ht.1,
        ih ht.2]
    | place p =>
      rw [named, named, Dialect.exchangeChars_append, Place.exchangeChars_name d' ht.1, ih ht.2.2]

theorem Dialect.exchange_eq {d : Dialect} (d' : Dialect) {t : Template}
    (ht : Template.WellFormed d t) {s s' : String} (h : s.toList = Template.named d t)
    (h' : s'.toList = Template.named d' t) : d.exchange d' s = s' := by
  rw [exchange, h, Template.exchangeChars_named d' ht, ← h', String.ofList_toList]

/-! ## Bindings -/

/-- The binding under another name. -/
def Binding.rename (f : List Char → List Char) (b : Binding) : Binding :=
  ⟨String.ofList (f b.name.toList), b.value⟩

/-- The binding with the marker of another dialect in its name. -/
def Binding.exchange (d d' : Dialect) (b : Binding) : Binding :=
  b.rename (d.exchangeChars d')

theorem Binding.IsPlaceholder.exchange {d : Dialect} (d' : Dialect) {b : Binding}
    (h : b.IsPlaceholder d) : (b.exchange d d').IsPlaceholder d' := by
  obtain ⟨w, hw, hname⟩ := h
  refine ⟨w, hw, ?_⟩
  rw [Binding.exchange, rename, hname, Dialect.exchangeChars_placeholder d' hw,
    String.toList_ofList]

theorem Place.exchange_bind {d : Dialect} (d' : Dialect) {p : Place} (h : IsName p.field)
    (v : Value) : (p.bind d v).exchange d d' = p.bind d' v := by
  rw [Binding.exchange, Binding.rename, toList_name_bind, exchangeChars_name d' h]
  rfl

theorem Place.map_exchange_bind {d : Dialect} (d' : Dialect) {places : List Place}
    (h : ∀ p ∈ places, IsName p.field) (meant : Place → Value) :
    (places.map fun p => p.bind d (meant p)).map (Binding.exchange d d') =
      places.map fun p => p.bind d' (meant p) := by
  rw [List.map_map]
  exact List.map_congr_left fun p hp => exchange_bind d' (h p hp) (meant p)

/-- Bindings to placeholders are named by their words, behind the one marker or the other. -/
theorem exists_words {d : Dialect} (d' : Dialect) {bindings : List Binding}
    (hb : ∀ b ∈ bindings, b.IsPlaceholder d) :
    ∃ words : List Binding, words.map (Binding.rename (d.marker :: ·)) = bindings ∧
      words.map (Binding.rename (d'.marker :: ·)) = bindings.map (Binding.exchange d d') := by
  refine ⟨bindings.map (Binding.rename List.tail), ?_, ?_⟩
  · rw [List.map_map]
    refine (List.map_congr_left fun b hmem => ?_).trans (List.map_id bindings)
    obtain ⟨w, -, hname⟩ := hb b hmem
    rw [Function.comp_apply, Binding.rename, Binding.rename, hname, String.toList_ofList,
      List.tail_cons, ← hname, String.ofList_toList, id]
  · rw [List.map_map]
    refine List.map_congr_left fun b hmem => ?_
    obtain ⟨w, hw, hname⟩ := hb b hmem
    rw [Function.comp_apply, Binding.exchange, Binding.rename, Binding.rename, Binding.rename,
      hname, String.toList_ofList, List.tail_cons, Dialect.exchangeChars_placeholder d' hw]

namespace Template

/-- Which values the places get depends only on which names are equal. -/
theorem fill_rename {f : List Char → List Char} (hf : Function.Injective f)
    (names : List (List Char)) (bindings : List Binding) :
    fill (names.map f) (bindings.map (Binding.rename f)) = fill names bindings := by
  induction names generalizing bindings with
  | nil => rfl
  | cons name names ih =>
    have hnamed : (fun b : Binding => decide (b.name.toList = f name)) ∘ Binding.rename f =
        fun b => decide (b.name.toList = name) := by
      funext b
      simp [Binding.rename, hf.eq_iff]
    rw [List.map_cons, fill, fill, List.find?_map, List.eraseP_map, hnamed, ih]
    cases bindings.find? fun b => b.name.toList = name <;> rfl

theorem fill_exchange {d : Dialect} (d' : Dialect) (places : List Place) {bindings : List Binding}
    (hb : ∀ b ∈ bindings, b.IsPlaceholder d) :
    fill (places.map (Place.name d')) (bindings.map (Binding.exchange d d')) =
      fill (places.map (Place.name d)) bindings := by
  obtain ⟨words, hwords, hexchanged⟩ := exists_words d' hb
  have hfill : ∀ e : Dialect, fill (places.map (Place.name e))
      (words.map (Binding.rename (e.marker :: ·))) = fill (places.map Place.word) words := by
    intro e
    have h := fill_rename (List.cons_injective (a := e.marker)) (places.map Place.word) words
    rw [List.map_map] at h
    exact h
  rw [← hexchanged, hfill, ← hwords, hfill]

end Template

/-! ## Statements -/

namespace Statement

open Template

/-- The statement with the marker of another dialect in its text and in the names that it binds. -/
def exchange (s : Statement) (d d' : Dialect) : Statement :=
  ⟨d.exchange d' s.sql, s.bindings.map (Binding.exchange d d')⟩

/-- In either style there is one positional form of both statements. -/
def SameForm (s s' : Statement) : Prop :=
  ∀ style, ∃ form, s.positional? style = some form ∧ s'.positional? style = some form

theorem eq_exchange {d d' : Dialect} {t : Template} (ht : WellFormed d t) {s s' : Statement}
    (hsql : s.sql.toList = named d t) (hsql' : s'.sql.toList = named d' t)
    (hb : s'.bindings = s.bindings.map (Binding.exchange d d')) : s' = s.exchange d d' := by
  rw [exchange, Dialect.exchange_eq d' ht hsql hsql', ← hb]

theorem Sends.sameForm {d d' : Dialect} {t : Template} {s s' : Statement} {values : List Value}
    (h : s.Sends d t values) (h' : s'.Sends d' t values) : s.SameForm s' :=
  fun style => ⟨_, h.positional style, h'.positional style⟩

/-- If there is a binding for every place of the template, then both statements have a positional
    form, and the same. -/
theorem sameForm_exchange {d d' : Dialect} {t : Template} (ht : WellFormed d t)
    (ht' : WellFormed d' t) {s : Statement} (hsql : s.sql.toList = named d t)
    (hb : ∀ b ∈ s.bindings, b.IsPlaceholder d)
    (hbound : (t.places.map (Place.name d)).Subperm (s.bindings.map fun b => b.name.toList)) :
    s.SameForm (s.exchange d d') := by
  obtain ⟨values, hfill, -⟩ := exists_fill hbound
  have hsql' : (s.exchange d d').sql.toList = named d' t := by
    rw [exchange, Dialect.exchange, String.toList_ofList, hsql, exchangeChars_named d' ht]
  have hb' : ∀ b ∈ (s.exchange d d').bindings, b.IsPlaceholder d' := by
    intro b hmem
    obtain ⟨b₀, hmem₀, rfl⟩ := List.mem_map.mp hmem
    exact (hb b₀ hmem₀).exchange d'
  exact (sends_of_fill ht hsql hb hfill).sameForm
    (sends_of_fill ht' hsql' hb' ((fill_exchange d' t.places hb).trans hfill))

end Statement

end RecordSql
