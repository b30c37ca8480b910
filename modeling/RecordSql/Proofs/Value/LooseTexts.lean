import RecordSql.Proofs.Except
import RecordSql.Proofs.Value.DateTimes

/-!
# The grammar of loose texts

A typed text is tried as one kind of value after the other. What the kinds take is said here without
an order: all that two of them share is that an integer is a floating point number too. So nothing
else depends on which kind is tried first.

* `LooseKind`, `Spells`: the kinds, and the values that a text spells as each of them.
* `Spells.exclusive`: no text is of two kinds, but for integers.
* `StandsFor`, `Tries.standsFor`: what a text stands for, in whatever order the kinds are tried.
* `Value.ofLooseText_eq_iff`: so what a typed text is read as.
-/

namespace RecordSql

open Calendar Numeral

/-! ## Kinds of typed values -/

/-- The kinds of values that a typed text can be, other than a text. -/
inductive LooseKind
  | null
  | int
  | float
  | bool
  | dateTime
  deriving DecidableEq

/-- The text is, as one of the kind, this value. -/
inductive Spells (s : String) : LooseKind → Value → Prop
  | null (h : Text.lower s = "null") : Spells s .null .null
  | int {n : Int64} (h : SpellsInteger s.toList n.toInt) : Spells s .int (.int n)
  | float {x : Binary64} (h : SpellsFloat s.toList x) : Spells s .float (.float x)
  | bool {b : Bool} (h : s = if b then "true" else "false") : Spells s .bool (.bool b)
  | dateTime {t : DateTime}
      (h : Pattern.joined.read s.toList = .ok t ∨ Pattern.date.read s.toList = .ok t) :
      Spells s .dateTime (.dateTime t)

/-- The order tries every kind, and integers before floating point numbers. -/
def Tries (order : List LooseKind) : Prop :=
  (∀ kind, kind ∈ order) ∧ order.idxOf .int < order.idxOf .float

/-! ## Texts of dates -/

namespace Calendar

theorem readDigits_eq_ok {limit : Option Nat} {cs : List Char} {r : Nat × List Char}
    (h : readDigits limit cs = .ok r) : ∃ ds, ds ≠ [] ∧ AllDigits ds ∧ cs = ds ++ r.2 := by
  unfold readDigits at h
  dsimp only at h
  split at h
  case isTrue => cases h
  case isFalse =>
    split at h
    case isTrue => cases h
    case isFalse hne =>
      split at h
      case isTrue => cases h
      case isFalse =>
        obtain rfl := Except.ok.inj h
        have hstart := (List.takeWhile_prefix Char.isDigit).trans
          (List.take_prefix (limit.getD cs.length) cs)
        exact ⟨_, hne, allDigits_takeWhile _, (List.prefix_iff_eq_append.mp hstart).symm⟩

theorem readYear_eq_ok {cs : List Char} {r : Int × List Char} (h : readYear cs = .ok r) :
    ∃ sign ds, (sign = [] ∨ sign = ['-'] ∨ sign = ['+']) ∧ ds ≠ [] ∧ AllDigits ds ∧
      cs = sign ++ (ds ++ r.2) := by
  unfold readYear at h
  split at h
  all_goals
    obtain ⟨q, hq, rfl⟩ := map_eq_ok_iff.mp h
    obtain ⟨ds, hne, hdigits, rfl⟩ := readDigits_eq_ok hq
  · exact ⟨['-'], ds, .inr (.inl rfl), hne, hdigits, rfl⟩
  · exact ⟨['+'], ds, .inr (.inr rfl), hne, hdigits, rfl⟩
  · exact ⟨[], ds, .inl rfl, hne, hdigits, rfl⟩

theorem Piece.read_mark_eq_ok {c : Char} {cs : List Char} {p : Parts} {r : Parts × List Char}
    (h : (Piece.mark c).read cs p = .ok r) : cs = c :: r.2 := by
  cases cs with
  | nil => cases h
  | cons d rest =>
    by_cases hd : d = c
    · have hread : (Piece.mark c).read (d :: rest) p = .ok (p, rest) := if_pos hd
      rw [hread] at h
      obtain rfl := Except.ok.inj h
      rw [hd]
    · have hread : (Piece.mark c).read (d :: rest) p = .error .invalid := if_neg hd
      rw [hread] at h
      cases h

theorem DatePart.read_year_eq_ok {cs : List Char} {p : Parts} {r : Parts × List Char}
    (h : DatePart.year.read cs p = .ok r) :
    ∃ y, readYear (Text.skipBlanks cs) = .ok (y, r.2) := by
  obtain ⟨⟨y, rest⟩, hyear, h⟩ := bind_eq_ok_iff.mp h
  dsimp only at h
  split at h
  · obtain rfl := Except.ok.inj h
    exact ⟨y, hyear⟩
  · cases h

theorem Pattern.readParts_of_read {pattern : Pattern} {cs : List Char} {t : DateTime}
    (h : pattern.read cs = .ok t) : ∃ parts, pattern.readParts cs {} = .ok (parts, []) := by
  unfold Pattern.read at h
  split at h
  case h_1 => cases h
  case h_2 => cases h
  case h_3 parts hparts => exact ⟨parts, hparts⟩

/-- A text of a pattern that begins with a year and a hyphen begins with them, behind blanks. -/
theorem hyphenated_of_read {pattern : Pattern} {cs : List Char} {t : DateTime}
    (h : Pattern.read (.part .year :: .mark '-' :: pattern) cs = .ok t) :
    Hyphenated (Text.skipBlanks cs) := by
  obtain ⟨parts, hparts⟩ := Pattern.readParts_of_read h
  obtain ⟨r, hyear, hparts⟩ := bind_eq_ok_iff.mp hparts
  obtain ⟨q, hmark, -⟩ := bind_eq_ok_iff.mp hparts
  obtain ⟨y, hread⟩ := DatePart.read_year_eq_ok hyear
  obtain ⟨sign, ds, hsign, hne, hdigits, heq⟩ := readYear_eq_ok hread
  refine ⟨sign, ds, q.2, ?_, hsign, hne, hdigits⟩
  rw [heq, Piece.read_mark_eq_ok hmark]

/-- A text that ends with its date has no time joined to it. -/
theorem not_read_joined_of_date {cs : List Char} {t u : DateTime}
    (hdate : Pattern.date.read cs = .ok u) : Pattern.joined.read cs ≠ .ok t := by
  intro hjoined
  obtain ⟨parts, hparts⟩ := Pattern.readParts_of_read hjoined
  obtain ⟨parts', hparts'⟩ := Pattern.readParts_of_read hdate
  rw [Pattern.joined, Pattern.readParts_append, hparts'] at hparts
  cases hparts

end Calendar

namespace Value

theorem dateTime?_eq_some_iff {cs : List Char} {t : DateTime} :
    dateTime? cs = some t ↔ Pattern.joined.read cs = .ok t ∨ Pattern.date.read cs = .ok t := by
  rw [dateTime?, Option.orElse_eq_some, toOption_eq_some_iff, toOption_eq_some_iff]
  constructor
  · rintro (hjoined | ⟨-, hdate⟩)
    · exact .inl hjoined
    · exact .inr hdate
  · rintro (hjoined | hdate)
    · exact .inl hjoined
    · refine .inr ⟨?_, hdate⟩
      rw [Option.eq_none_iff_forall_ne_some]
      intro u hu
      exact not_read_joined_of_date hdate (toOption_eq_some_iff.mp hu)

theorem word?_eq_some_iff {cs : List Char} {n : Int64} :
    word? cs = some n ↔ SpellsInteger cs n.toInt := by
  have hbind : word? cs = (integer? cs).bind fun i => (toInt64 i).toOption := rfl
  simp only [hbind, Option.bind_eq_some_iff, toOption_eq_some_iff, toInt64_eq_ok_iff,
    integer?_eq_some_iff]
  constructor
  · rintro ⟨i, hi, rfl⟩
    exact hi
  · intro h
    exact ⟨_, h, rfl⟩

theorem truth?_eq_some_iff {s : String} {b : Bool} :
    truth? s.toList = some b ↔ s = if b then "true" else "false" := by
  unfold truth?
  simp only [String.toList_inj]
  split
  case isTrue h => subst h; cases b <;> simp
  case isFalse h =>
    split
    case isTrue h' => subst h'; cases b <;> simp
    case isFalse h' => cases b <;> simp [h, h']

end Value

/-! ## Reading as one kind -/

namespace LooseKind

/-- The value that a text is as one of the kind. -/
def read (s : String) : LooseKind → Option Value
  | .null => if Text.equalFold s "null" then some .null else none
  | .int => (Value.word? s.toList).map .int
  | .float => (float? s.toList).map .float
  | .bool => (Value.truth? s.toList).map .bool
  | .dateTime => (Value.dateTime? s.toList).map .dateTime

theorem read_eq_some_iff {s : String} {kind : LooseKind} {v : Value} :
    kind.read s = some v ↔ Spells s kind v := by
  cases kind with
  | null =>
    have hnull : Text.equalFold s "null" = true ↔ Text.lower s = "null" := by
      rw [Text.equalFold_iff]
      rfl
    simp only [read, hnull]
    constructor
    · intro h
      split at h
      case isTrue hlower =>
        obtain rfl := Option.some.inj h
        exact .null hlower
      case isFalse => cases h
    · rintro ⟨hlower⟩
      exact if_pos hlower
  | int =>
    rw [read, Option.map_eq_some_iff]
    constructor
    · rintro ⟨n, hn, rfl⟩
      exact .int (Value.word?_eq_some_iff.mp hn)
    · rintro (_ | h)
      exact ⟨_, Value.word?_eq_some_iff.mpr h, rfl⟩
  | float =>
    rw [read, Option.map_eq_some_iff]
    constructor
    · rintro ⟨x, hx, rfl⟩
      exact .float (float?_eq_some_iff.mp hx)
    · rintro (_ | _ | h)
      exact ⟨_, float?_eq_some_iff.mpr h, rfl⟩
  | bool =>
    rw [read, Option.map_eq_some_iff]
    constructor
    · rintro ⟨b, hb, rfl⟩
      exact .bool (Value.truth?_eq_some_iff.mp hb)
    · rintro (_ | _ | _ | h)
      exact ⟨_, Value.truth?_eq_some_iff.mpr h, rfl⟩
  | dateTime =>
    rw [read, Option.map_eq_some_iff]
    constructor
    · rintro ⟨t, ht, rfl⟩
      exact .dateTime (Value.dateTime?_eq_some_iff.mp ht)
    · rintro (_ | _ | _ | _ | h)
      exact ⟨_, Value.dateTime?_eq_some_iff.mpr h, rfl⟩

end LooseKind

/-! ## Kinds apart -/

/-- The words of null and of truth values, in small letters. -/
def words : List String := ["null", "true", "false"]

theorem not_spellsFloat_of_word {s : String} (h : Text.lower s ∈ words) (x : Binary64) :
    ¬ SpellsFloat s.toList x := by
  have hletters : ∀ word ∈ words, (word.toList.all fun c => !c.isDigit) = true := by decide
  have hother : ∀ word ∈ words, word.toList ∉ signedWords := by decide
  apply not_spellsFloat
  · intro c hc
    rw [← Text.toList_lower] at hc
    simpa using List.all_eq_true.mp (hletters _ h) c hc
  · rw [← Text.toList_lower]
    exact hother _ h

theorem not_hyphenated_of_word {s : String} (h : Text.lower s ∈ words) :
    ¬ Hyphenated (Text.skipBlanks s.toList) := by
  have hhyphen : ∀ word ∈ words, '-' ∉ word.toList := by decide
  intro hdate
  refine hhyphen _ h ?_
  rw [Text.toList_lower]
  exact List.mem_map.mpr ⟨'-', (List.dropWhile_sublist _).subset hdate.mem, by decide⟩

theorem toLower_of_isBlank {c : Char} (h : Text.isBlank c = true) : c.toLower = c := by
  apply Text.toLower_of_not_capital
  simp [Text.isBlank] at h
  omega

/-- A floating point number does not begin with a blank. -/
theorem skipBlanks_of_spellsFloat {cs : List Char} {x : Binary64} (h : SpellsFloat cs x) :
    Text.skipBlanks cs = cs := by
  refine dropWhile_of_head? fun c hc => ?_
  rw [← Bool.not_eq_true]
  intro hblank
  obtain hsign | hdigit | hletter := h.head? c hc
  · have hsigns : ∀ c ∈ ['-', '+', '.'], Text.isBlank c = false := by simp [Text.isBlank]
    rw [hsigns c hsign] at hblank
    cases hblank
  · rw [isBlank_of_isDigit hdigit] at hblank
    cases hblank
  · have hletters : ∀ c ∈ ['i', 'n'], Text.isBlank c = false := by simp [Text.isBlank]
    rw [toLower_of_isBlank hblank] at hletter
    rw [hletters c hletter] at hblank
    cases hblank

theorem not_hyphenated_of_spellsFloat {cs : List Char} {x : Binary64} (h : SpellsFloat cs x) :
    ¬ Hyphenated (Text.skipBlanks cs) := by
  rw [skipBlanks_of_spellsFloat h]
  intro hdate
  have hread := float?_eq_some_iff.mpr h
  rw [hdate.float?_eq_none] at hread
  cases hread

namespace Spells

variable {s : String} {kind other : LooseKind} {v w : Value}

/-- An integer or a floating point number, a word, or a date. -/
theorem shape (h : Spells s kind v) :
    (kind = .int ∨ kind = .float) ∧ (∃ x, SpellsFloat s.toList x) ∨
      kind = .null ∧ Text.lower s = "null" ∨
      kind = .bool ∧ Text.lower s ∈ ["true", "false"] ∨
      kind = .dateTime ∧ Hyphenated (Text.skipBlanks s.toList) := by
  cases h with
  | int h => exact .inl ⟨.inl rfl, h.spellsFloat⟩
  | float h => exact .inl ⟨.inr rfl, _, h⟩
  | null h => exact .inr (.inl ⟨rfl, h⟩)
  | @bool b h =>
    refine .inr (.inr (.inl ⟨rfl, ?_⟩))
    cases b <;> (subst h; decide)
  | dateTime h =>
    refine .inr (.inr (.inr ⟨rfl, ?_⟩))
    obtain h | h := h
    · exact hyphenated_of_read h
    · exact hyphenated_of_read h

/-- No text is of two kinds, unless both are kinds of numbers. -/
theorem exclusive (h : Spells s kind v) (h' : Spells s other w) :
    kind = other ∨ (kind = .int ∨ kind = .float) ∧ (other = .int ∨ other = .float) := by
  have hword : Text.lower s ∈ ["true", "false"] → Text.lower s ∈ words := List.mem_cons_of_mem _
  have hnull : Text.lower s = "null" → Text.lower s ∈ words := fun h => h ▸ List.mem_cons_self
  have hapart : Text.lower s = "null" → Text.lower s ∉ ["true", "false"] := fun h => h ▸ by decide
  obtain ⟨hkind, x, hx⟩ | ⟨rfl, hs⟩ | ⟨rfl, hs⟩ | ⟨rfl, hs⟩ := h.shape
  · obtain ⟨hother, -⟩ | ⟨-, hs'⟩ | ⟨-, hs'⟩ | ⟨-, hs'⟩ := h'.shape
    · exact .inr ⟨hkind, hother⟩
    · exact absurd hx (not_spellsFloat_of_word (hnull hs') x)
    · exact absurd hx (not_spellsFloat_of_word (hword hs') x)
    · exact absurd hs' (not_hyphenated_of_spellsFloat hx)
  · obtain ⟨-, x, hx⟩ | ⟨rfl, -⟩ | ⟨-, hs'⟩ | ⟨-, hs'⟩ := h'.shape
    · exact absurd hx (not_spellsFloat_of_word (hnull hs) x)
    · exact .inl rfl
    · exact absurd hs' (hapart hs)
    · exact absurd hs' (not_hyphenated_of_word (hnull hs))
  · obtain ⟨-, x, hx⟩ | ⟨-, hs'⟩ | ⟨rfl, -⟩ | ⟨-, hs'⟩ := h'.shape
    · exact absurd hx (not_spellsFloat_of_word (hword hs) x)
    · exact absurd hs (hapart hs')
    · exact .inl rfl
    · exact absurd hs' (not_hyphenated_of_word (hword hs))
  · obtain ⟨-, x, hx⟩ | ⟨-, hs'⟩ | ⟨-, hs'⟩ | ⟨rfl, -⟩ := h'.shape
    · exact absurd hs (not_hyphenated_of_spellsFloat hx)
    · exact absurd hs (not_hyphenated_of_word (hnull hs'))
    · exact absurd hs (not_hyphenated_of_word (hword hs'))
    · exact .inl rfl

/-- Of one kind, a text is one value. -/
theorem unique (h : Spells s kind v) (h' : Spells s kind w) : v = w := by
  rw [← LooseKind.read_eq_some_iff] at h h'
  exact Option.some.inj (h.symm.trans h')

end Spells

/-! ## Orders of the kinds -/

/-- What a text stands for: the value that it is as one of a kind, as a floating point number only
    if it is no signed word; and if it is of no kind, the text itself. -/
inductive StandsFor (s : String) : Value → Prop
  | spelled {kind : LooseKind} {v : Value} (h : Spells s kind v)
      (hint : kind = .float → ∀ w, ¬ Spells s .int w) : StandsFor s v
  | text (h : ∀ kind v, ¬ Spells s kind v) : StandsFor s (.text s)

theorem StandsFor.unique {s : String} {v w : Value} (h : StandsFor s v) (h' : StandsFor s w) :
    v = w := by
  cases h with
  | text h =>
    cases h' with
    | text => rfl
    | spelled h' => exact absurd h' (h _ _)
  | spelled h hint =>
    cases h' with
    | text h' => exact absurd h (h' _ _)
    | spelled h' hint' =>
      obtain rfl | ⟨rfl | rfl, rfl | rfl⟩ := h.exclusive h'
      · exact h.unique h'
      · exact h.unique h'
      · exact absurd h (hint' rfl _)
      · exact absurd h' (hint rfl _)
      · exact h.unique h'

theorem Tries.int_mem {before behind : List LooseKind} (h : Tries (before ++ .float :: behind)) :
    .int ∈ before := by
  by_contra hint
  have hlt := h.2
  rw [List.idxOf_append, List.idxOf_append, if_neg hint, List.idxOf_cons_self] at hlt
  split at hlt
  case isTrue hfloat =>
    have := List.idxOf_lt_length_iff.mpr hfloat
    omega
  case isFalse => omega

/-- In whatever order the kinds are tried, the first that takes a text makes of it what the text
    stands for. -/
theorem Tries.standsFor {order : List LooseKind} (horder : Tries order) (s : String) :
    StandsFor s ((order.findSome? (LooseKind.read s)).getD (.text s)) := by
  cases hfirst : order.findSome? (LooseKind.read s) with
  | none =>
    apply StandsFor.text
    intro kind v h
    have hnone := List.findSome?_eq_none_iff.mp hfirst kind (horder.1 kind)
    rw [LooseKind.read_eq_some_iff.mpr h] at hnone
    cases hnone
  | some v =>
    obtain ⟨before, kind, behind, rfl, hread, hnone⟩ := List.findSome?_eq_some_iff.mp hfirst
    apply StandsFor.spelled (LooseKind.read_eq_some_iff.mp hread)
    rintro rfl w hw
    have hint := hnone .int horder.int_mem
    rw [LooseKind.read_eq_some_iff.mpr hw] at hint
    cases hint

namespace Value

theorem ofLooseText_eq_findSome? (s : String) :
    ofLooseText s =
      ([.null, .int, .float, .bool, .dateTime].findSome? (LooseKind.read s)).getD (.text s) := by
  simp only [ofLooseText, List.findSome?_cons, List.findSome?_nil, LooseKind.read]
  cases Text.equalFold s "null" with
  | true => rfl
  | false =>
    cases word? s.toList with
    | some n => rfl
    | none =>
      cases float? s.toList with
      | some x => rfl
      | none =>
        cases truth? s.toList with
        | some b => rfl
        | none => cases dateTime? s.toList <;> rfl

theorem ofLooseText_eq_iff {s : String} {v : Value} : ofLooseText s = v ↔ StandsFor s v := by
  have horder : Tries [.null, .int, .float, .bool, .dateTime] := by
    refine ⟨?_, by decide⟩
    intro kind
    cases kind <;> decide
  have hstands : StandsFor s (ofLooseText s) := by
    rw [ofLooseText_eq_findSome?]
    exact horder.standsFor s
  constructor
  · rintro rfl
    exact hstands
  · exact hstands.unique

end Value

/-- An order of the kinds does not matter, as long as integers are tried before floating point
    numbers. -/
theorem Tries.findSome?_eq {order : List LooseKind} (horder : Tries order) (s : String) :
    (order.findSome? (LooseKind.read s)).getD (.text s) = Value.ofLooseText s :=
  (Value.ofLooseText_eq_iff.mpr (horder.standsFor s)).symm

end RecordSql
