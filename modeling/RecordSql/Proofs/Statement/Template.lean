import Mathlib.Data.List.Basic
import RecordSql.Dialect.Basic
import RecordSql.Statement.Positional

/-!
# Templates of statements

A template is a statement whose places are kept apart from the text around them. A place says what
is wanted there: the value that a field is given, or the value that a field is compared with.
Written with names, a template is what a compiler makes; written with markers, it is what a database
is sent.

* `named_append`, `places_append`: templates are read piece after piece.
* `separated_induction`: what is kept in putting templates together.
* `WellFormed.append`, `WellFormed.separated`: templates are put together from well-formed parts.
* `not_hasNamed_positional`: no named placeholder is left once the places have markers.
-/

namespace RecordSql

open Text Positional

/-! ## Names -/

/-- A name of word characters only. -/
def IsName (s : String) : Prop :=
  ∀ ch ∈ s.toList, isWordChar ch = true

theorem isName_of_ascii {s : String}
    (h : s.toList.all (fun ch => ch.toNat < 0x80 && (ch.isAlphanum || ch == '_')) = true) :
    IsName s := by
  intro ch hch
  have hascii := List.all_eq_true.mp h ch hch
  rw [Bool.and_eq_true, decide_eq_true_eq] at hascii
  rw [isWordChar_ascii hascii.1]
  exact hascii.2

/-- A placeholder whose name has at least one character stands in the text. -/
def HasNamed (marker : Char) (cs : List Char) : Prop :=
  ∃ name, name ≠ [] ∧ (∀ ch ∈ name, isWordChar ch = true) ∧ marker :: name <:+: cs

theorem isWordChar_p : isWordChar 'p' = true := by
  rw [isWordChar_ascii (by decide)]
  decide

theorem Dialect.isWordChar_marker (d : Dialect) : isWordChar d.marker = false := by
  cases d <;> rw [isWordChar_ascii (by decide)] <;> decide

theorem Dialect.marker_notMem_of_isWordChar (d : Dialect) {cs : List Char}
    (h : ∀ ch ∈ cs, isWordChar ch = true) : d.marker ∉ cs := by
  intro hmem
  have := h _ hmem
  rw [d.isWordChar_marker] at this
  contradiction

theorem continuesName_append {cs : List Char} (h : cs ≠ []) (ds : List Char) :
    continuesName (cs ++ ds) = continuesName cs := by
  cases cs with
  | nil => contradiction
  | cons c cs => rfl

theorem continuesName_append_eq_false {cs ds : List Char} (hcs : continuesName cs = false)
    (hds : continuesName ds = false) : continuesName (cs ++ ds) = false := by
  cases cs with
  | nil => exact hds
  | cons c cs => exact hcs

theorem hasNamed_cons {marker c : Char} {cs : List Char} :
    HasNamed marker (c :: cs) ↔ (c = marker ∧ continuesName cs = true) ∨ HasNamed marker cs := by
  constructor
  · rintro ⟨name, hne, hword, hin⟩
    rcases List.infix_cons_iff.mp hin with hpre | hin
    · left
      obtain ⟨rfl, hname⟩ := List.cons_prefix_cons.mp hpre
      obtain ⟨ch, rest, rfl⟩ := List.exists_cons_of_ne_nil hne
      obtain ⟨after, rfl⟩ := hname
      exact ⟨rfl, hword ch (by simp)⟩
    · exact Or.inr ⟨name, hne, hword, hin⟩
  · rintro (⟨rfl, hc⟩ | ⟨name, hne, hword, hin⟩)
    · cases cs with
      | nil => simp [continuesName] at hc
      | cons ch cs =>
        refine ⟨[ch], by simp, ?_, ?_⟩
        · intro x hx
          rw [List.mem_singleton.mp hx]
          exact hc
        · exact (List.prefix_append [c, ch] cs).isInfix
    · exact ⟨name, hne, hword, List.infix_cons_iff.mpr (Or.inr hin)⟩

theorem hasNamed_append {marker : Char} {cs : List Char} (h : marker ∉ cs) (ds : List Char) :
    HasNamed marker (cs ++ ds) ↔ HasNamed marker ds := by
  induction cs with
  | nil => rfl
  | cons c cs ih =>
    simp only [List.mem_cons, not_or] at h
    rw [List.cons_append, hasNamed_cons, ih h.2]
    have : c ≠ marker := fun hc => h.1 hc.symm
    simp [this]

/-! ## Places and pieces -/

/-- What is wanted at a place of a statement. -/
inductive Place
  /-- The value that a field is given. -/
  | assigned (field : String)
  /-- The value that a field is compared with. -/
  | compared (field : String)
  deriving DecidableEq

namespace Place

/-- The field that the place is about. -/
def field : Place → String
  | assigned field | compared field => field

/-- The name of the place without its marker. -/
def word : Place → List Char
  | assigned field => field.toList
  | compared field => 'p' :: field.toList

/-- The placeholder that stands for the place. -/
def name (d : Dialect) (p : Place) : List Char :=
  d.marker :: p.word

theorem isWordChar_word {p : Place} (h : IsName p.field) : ∀ ch ∈ p.word, isWordChar ch = true := by
  intro ch hch
  cases p with
  | assigned field => exact h ch hch
  | compared field =>
    rcases List.mem_cons.mp hch with rfl | hch
    · exact isWordChar_p
    · exact h ch hch

variable {d : Dialect} {a b : String}

theorem name_assigned_inj : (assigned a).name d = (assigned b).name d ↔ a = b := by
  simp [name, word, String.toList_inj]

theorem name_compared_inj : (compared a).name d = (compared b).name d ↔ a = b := by
  simp [name, word, String.toList_inj]

/-- The placeholder of a column is that of a compared field if the column has its name. -/
theorem name_assigned_eq_compared :
    (assigned a).name d = (compared b).name d ↔ a = "p" ++ b := by
  rw [← String.toList_inj]
  simp [name, word]

end Place

/-- A piece of a statement. -/
inductive Piece
  | text (s : String)
  | place (p : Place)
  deriving DecidableEq

/-- A statement as its pieces, from left to right. -/
abbrev Template : Type :=
  List Piece

namespace Template

/-- The text with the names of the places. -/
def named (d : Dialect) : Template → List Char
  | [] => []
  | .text s :: rest => s.toList ++ named d rest
  | .place p :: rest => p.name d ++ named d rest

/-- The text with markers, the first of which is the `n`th, counted from zero. -/
def positional (style : MarkerStyle) : (n : Nat) → Template → List Char
  | _, [] => []
  | n, .text s :: rest => s.toList ++ positional style n rest
  | n, .place _ :: rest => style.marker n ++ positional style (n + 1) rest

/-- The places in order. -/
def places : Template → List Place
  | [] => []
  | .text _ :: rest => places rest
  | .place p :: rest => p :: places rest

/-- Templates with a text between them. -/
def separated (separator : String) : List Template → Template
  | [] => []
  | [l] => l
  | l :: k :: rest => l ++ .text separator :: separated separator (k :: rest)

/-- The template does not go on with a word character, so a name can end in front of it. -/
def Breaks : Template → Prop
  | [] => True
  | .text s :: _ => s.toList ≠ [] ∧ continuesName s.toList = false
  | .place _ :: _ => True

/-- The marker stands only at places, fields have names, and every place's name ends where the place
    does. -/
def WellFormed (d : Dialect) : Template → Prop
  | [] => True
  | .text s :: rest => d.marker ∉ s.toList ∧ WellFormed d rest
  | .place p :: rest => IsName p.field ∧ Breaks rest ∧ WellFormed d rest

/-! ## Putting templates together -/

theorem named_append (d : Dialect) (l k : Template) :
    named d (l ++ k) = named d l ++ named d k := by
  induction l with
  | nil => rfl
  | cons piece l ih => cases piece <;> simp [named, ih]

theorem places_append (l k : Template) : places (l ++ k) = places l ++ places k := by
  induction l with
  | nil => rfl
  | cons piece l ih => cases piece <;> simp [places, ih]

theorem named_separated (d : Dialect) (separator : String) (ls : List Template) :
    named d (separated separator ls) = separator.toList.intercalate (ls.map (named d)) := by
  induction ls using separated.induct with
  | case1 => simp [separated, named]
  | case2 l => simp [separated]
  | case3 l k rest ih =>
    rw [separated, named_append, named, ih]
    simp [List.intercalate_cons_cons]

theorem places_separated (separator : String) (ls : List Template) :
    places (separated separator ls) = ls.flatMap places := by
  induction ls using separated.induct with
  | case1 => rfl
  | case2 l => simp [separated]
  | case3 l k rest ih =>
    rw [separated, places_append, places, ih]
    simp

theorem Breaks.append {l k : Template} (hl : Breaks l) (hk : Breaks k) : Breaks (l ++ k) := by
  cases l with
  | nil => exact hk
  | cons piece l => cases piece <;> exact hl

theorem WellFormed.append {d : Dialect} {l k : Template} (hl : WellFormed d l) (hk : WellFormed d k)
    (hb : Breaks k) : WellFormed d (l ++ k) := by
  induction l with
  | nil => exact hk
  | cons piece l ih =>
    cases piece with
    | text s => exact ⟨hl.1, ih hl.2⟩
    | place p => exact ⟨hl.1, hl.2.1.append hb, ih hl.2.2⟩

/-- What is kept in putting templates together holds of templates with a text between them. -/
theorem separated_induction {P : Template → Prop} (hnil : P [])
    (happend : ∀ l k, P l → P k → Breaks k → P (l ++ k)) {separator : String}
    (hseparator : ∀ t, P t → P (.text separator :: t)) (hb : Breaks [.text separator])
    {ls : List Template} (h : ∀ l ∈ ls, P l) : P (separated separator ls) := by
  induction ls using separated.induct with
  | case1 => exact hnil
  | case2 l => exact h l (by simp)
  | case3 l k rest ih =>
    have hrest := ih fun x hx => h x (List.mem_cons_of_mem l hx)
    exact happend l _ (h l (by simp)) (hseparator _ hrest) hb

theorem WellFormed.separated {d : Dialect} {separator : String} {ls : List Template}
    (hs : d.marker ∉ separator.toList) (hb : Breaks [.text separator])
    (h : ∀ l ∈ ls, WellFormed d l) : WellFormed d (separated separator ls) :=
  separated_induction trivial (fun _ _ => WellFormed.append) (fun _ ht => ⟨hs, ht⟩) hb h

theorem WellFormed.isName_field {d : Dialect} {t : Template} (h : WellFormed d t) {p : Place}
    (hp : p ∈ t.places) : IsName p.field := by
  induction t with
  | nil => simp [places] at hp
  | cons piece t ih =>
    cases piece with
    | text s => exact ih h.2 hp
    | place q =>
      rcases List.mem_cons.mp hp with rfl | hp
      · exact h.1
      · exact ih h.2.2 hp

/-! ## Names that end -/

theorem Breaks.continuesName_named {l : Template} (h : Breaks l) (d : Dialect) :
    continuesName (named d l) = false := by
  cases l with
  | nil => rfl
  | cons piece l =>
    cases piece with
    | text s => rw [named, continuesName_append h.1, h.2]
    | place p => exact d.isWordChar_marker

theorem continuesName_marker (style : MarkerStyle) (n : Nat) (cs : List Char) :
    continuesName (style.marker n ++ cs) = false := by
  cases style with
  | question => exact isWordChar_ascii (c := '?') (by decide)
  | numbered => exact isWordChar_ascii (c := '$') (by decide)

theorem Breaks.continuesName_positional {l : Template} (h : Breaks l) (style : MarkerStyle)
    (n : Nat) : continuesName (positional style n l) = false := by
  cases l with
  | nil => rfl
  | cons piece l =>
    cases piece with
    | text s => rw [positional, continuesName_append h.1, h.2]
    | place p => exact continuesName_marker style n _

/-- A positional marker is not taken for the marker of a placeholder, unless it is a question mark
    that no name follows. -/
theorem hasNamed_marker {d : Dialect} {style : MarkerStyle} {n : Nat} {cs : List Char}
    (h : continuesName cs = false) :
    HasNamed d.marker (style.marker n ++ cs) ↔ HasNamed d.marker cs := by
  cases style with
  | question =>
    rw [MarkerStyle.marker, List.singleton_append, hasNamed_cons]
    simp [h]
  | numbered =>
    apply hasNamed_append
    have hdigits : d.marker ∉ Nat.toDigits 10 (n + 1) := by
      intro hmem
      have := Nat.isDigit_of_mem_toDigits (by omega) (by omega) hmem
      cases d <;> simp [Dialect.marker] at this
    have hdollar : d.marker ≠ '$' := by cases d <;> decide
    simp [MarkerStyle.marker, hdigits, hdollar]

theorem not_hasNamed_positional {d : Dialect} {l : Template} (h : WellFormed d l)
    (style : MarkerStyle) (n : Nat) : ¬ HasNamed d.marker (positional style n l) := by
  induction l generalizing n with
  | nil =>
    rintro ⟨name, -, -, hin⟩
    simp [positional] at hin
  | cons piece l ih =>
    cases piece with
    | text s =>
      rw [positional, hasNamed_append h.1]
      exact ih h.2 n
    | place p =>
      rw [positional, hasNamed_marker (h.2.1.continuesName_positional style _)]
      exact ih h.2.2 (n + 1)

end Template

end RecordSql
