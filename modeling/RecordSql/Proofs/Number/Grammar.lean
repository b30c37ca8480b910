import Mathlib.Data.List.TakeWhile
import Mathlib.Data.Option.Basic
import RecordSql.Number.Reader
import RecordSql.Text.Basic

/-!
# The grammar of numerals

Which texts are numerals is said here without a reader: by their parts, put one behind the other.
The readers accept these texts and no others, each as the number that the parts make up.

* `SpellsInteger`: an optional sign and digits.
* `SpellsFloat`: an optional sign, and a word or a decimal with an optional exponent.
* `integer?_eq_some_iff`, `float?_eq_some_iff`: what the readers accept.
* `SpellsInteger.spellsFloat`: an integer can be read as a floating point number too.
* `SpellsFloat.digit_or_word`, `SpellsFloat.head?`: what no floating point number is without.
-/

namespace RecordSql.Numeral

/-! ## The grammar -/

/-- Nothing but digits. -/
def AllDigits (ds : List Char) : Prop :=
  ∀ c ∈ ds, c.isDigit = true

/-- An optional sign, with whether it is a minus sign. -/
inductive Sign : Bool → List Char → Prop
  | absent : Sign false []
  | plus : Sign false ['+']
  | minus : Sign true ['-']

/-- A number with a sign. -/
def withSign (negative : Bool) (n : Nat) : Int :=
  if negative then -(n : Int) else n

/-- A text that is an integer: one or more digits behind an optional sign. -/
inductive SpellsInteger : List Char → Int → Prop
  | mk {negative : Bool} {sign ds : List Char} (hsign : Sign negative sign) (hne : ds ≠ [])
      (hdigits : AllDigits ds) : SpellsInteger (sign ++ ds) (withSign negative (value ds))

/-- Digits with an optional point among or around them, and at least one digit. -/
inductive Mantissa : (whole fraction : List Char) → List Char → Prop
  | whole {ds : List Char} (hne : ds ≠ []) (hdigits : AllDigits ds) : Mantissa ds [] ds
  | pointed {ds es : List Char} (hne : ds ≠ [] ∨ es ≠ []) (hdigits : AllDigits ds)
      (hdigits' : AllDigits es) : Mantissa ds es (ds ++ '.' :: es)

/-- An optional exponent: an integer behind the letter `e`. -/
inductive Exponent : Int → List Char → Prop
  | absent : Exponent 0 []
  | marked {letter : Char} {cs : List Char} {e : Int} (hletter : letter = 'e' ∨ letter = 'E')
      (hcs : SpellsInteger cs e) : Exponent e (letter :: cs)

/-- The words for infinity, in small letters. -/
def infinityWords : List (List Char) := ["inf".toList, "infinity".toList]

/-- The word for no number, in small letters. -/
def nanWord : List Char := "nan".toList

/-- A word that is a floating point number, in any case of its letters. The sign in front of it
    counts only for an infinity. -/
inductive Word : Bool → List Char → Binary64 → Prop
  | infinity {negative : Bool} {word : List Char} (h : word.map Char.toLower ∈ infinityWords) :
      Word negative word (.infinity negative)
  | nan {negative : Bool} {word : List Char} (h : word.map Char.toLower = nanWord) :
      Word negative word .nan

/-- A text that is a floating point number: a word or a decimal, behind an optional sign. -/
inductive SpellsFloat : List Char → Binary64 → Prop
  | word {negative : Bool} {sign word : List Char} {x : Binary64} (hsign : Sign negative sign)
      (hword : Word negative word x) : SpellsFloat (sign ++ word) x
  | decimal {negative : Bool} {sign whole fraction mantissa exponent : List Char} {e : Int}
      (hsign : Sign negative sign) (hmantissa : Mantissa whole fraction mantissa)
      (hexponent : Exponent e exponent) :
      SpellsFloat (sign ++ (mantissa ++ exponent))
        (Parts.toBinary64 ⟨negative, whole, fraction, e⟩)

/-! ## Signs and digits -/

theorem sign_splitSign (cs : List Char) :
    ∃ sign, Sign (splitSign cs).1 sign ∧ cs = sign ++ (splitSign cs).2 := by
  unfold splitSign
  split
  · exact ⟨['-'], .minus, rfl⟩
  · exact ⟨['+'], .plus, rfl⟩
  · exact ⟨[], .absent, rfl⟩

/-- A sign is taken off a text that goes on with none. -/
theorem splitSign_append {negative : Bool} {sign cs : List Char} (hsign : Sign negative sign)
    (hcs : ∀ c ∈ cs.head?, c ≠ '-' ∧ c ≠ '+') : splitSign (sign ++ cs) = (negative, cs) := by
  cases hsign with
  | plus => rfl
  | minus => rfl
  | absent =>
    rw [List.nil_append]
    unfold splitSign
    split
    · exact absurd rfl (hcs '-' rfl).1
    · exact absurd rfl (hcs '+' rfl).2
    · rfl

theorem splitDigits_append {ds cs : List Char} (hdigits : AllDigits ds)
    (hcs : ∀ c ∈ cs.head?, c.isDigit = false) : splitDigits (ds ++ cs) = (ds, cs) := by
  have hstop : cs.takeWhile Char.isDigit = [] ∧ cs.dropWhile Char.isDigit = cs := by
    cases cs with
    | nil => exact ⟨rfl, rfl⟩
    | cons c cs =>
      have hc : ¬ c.isDigit = true := by simp [hcs c rfl]
      exact ⟨List.takeWhile_cons_of_neg hc, List.dropWhile_cons_of_neg hc⟩
  unfold splitDigits
  rw [List.takeWhile_append_of_pos hdigits, List.dropWhile_append_of_pos hdigits, hstop.1, hstop.2,
    List.append_nil]

theorem allDigits_takeWhile (cs : List Char) : AllDigits (cs.takeWhile Char.isDigit) :=
  fun _ => List.mem_takeWhile_imp

theorem ne_signs_of_isDigit {c : Char} (h : c.isDigit = true) : c ≠ '-' ∧ c ≠ '+' := by
  constructor <;> rintro rfl <;> exact absurd h (by decide)

theorem AllDigits.head? {ds : List Char} (h : AllDigits ds) : ∀ c ∈ ds.head?, c.isDigit = true :=
  fun c hc => h c (List.mem_of_head? hc)

/-! ## Integers -/

theorem natural?_eq_some_iff {cs : List Char} {n : Nat} :
    natural? cs = some n ↔ cs ≠ [] ∧ AllDigits cs ∧ n = value cs := by
  unfold natural?
  by_cases h : cs ≠ [] ∧ cs.all Char.isDigit = true
  · rw [if_pos h, Option.some.injEq]
    constructor
    · rintro rfl
      exact ⟨h.1, List.all_eq_true.mp h.2, rfl⟩
    · rintro ⟨-, -, rfl⟩
      rfl
  · rw [if_neg h]
    constructor
    · intro hnone
      cases hnone
    · rintro ⟨hne, hdigits, -⟩
      exact absurd ⟨hne, List.all_eq_true.mpr hdigits⟩ h

/-- The reader of integers takes a sign off as the reader of floating point numbers does. -/
theorem integer?_eq_splitSign (cs : List Char) :
    integer? cs = (natural? (splitSign cs).2).map (withSign (splitSign cs).1) := by
  unfold integer?
  split
  case h_1 => rfl
  case h_2 => rfl
  case h_3 hplus hminus =>
    have hsigns : ∀ c ∈ cs.head?, c ≠ '-' ∧ c ≠ '+' := by
      intro c hc
      obtain ⟨rest, rfl⟩ := List.head?_eq_some_iff.mp hc
      constructor
      · rintro rfl
        exact hminus rest rfl
      · rintro rfl
        exact hplus rest rfl
    have hsplit : splitSign cs = (false, cs) := splitSign_append .absent hsigns
    rw [hsplit]
    rfl

theorem integer?_eq_some_iff {cs : List Char} {i : Int} :
    integer? cs = some i ↔ SpellsInteger cs i := by
  rw [integer?_eq_splitSign]
  constructor
  · intro h
    obtain ⟨sign, hsign, hcs⟩ := sign_splitSign cs
    generalize splitSign cs = parts at h hsign hcs
    obtain ⟨negative, rest⟩ := parts
    obtain ⟨n, hn, rfl⟩ := Option.map_eq_some_iff.mp h
    obtain ⟨hne, hdigits, rfl⟩ := natural?_eq_some_iff.mp hn
    rw [hcs]
    exact .mk hsign hne hdigits
  · rintro ⟨hsign, hne, hdigits⟩
    rw [splitSign_append hsign fun c hc => ne_signs_of_isDigit (hdigits.head? c hc)]
    dsimp only
    rw [natural?_eq_some_iff.mpr ⟨hne, hdigits, rfl⟩]
    rfl

theorem SpellsInteger.unique {cs : List Char} {i j : Int} (hi : SpellsInteger cs i)
    (hj : SpellsInteger cs j) : i = j := by
  rw [← integer?_eq_some_iff] at hi hj
  exact Option.some.inj (hi.symm.trans hj)

/-- An integer is spelled as it is written. -/
theorem spellsInteger_signed (i : Int) : SpellsInteger (signed i) i := by
  have hdigits : AllDigits (digits i.natAbs) := fun _ => isDigit_of_mem_digits
  unfold signed
  split
  case isTrue hneg =>
    have hspelled := SpellsInteger.mk .minus (digits_ne_nil i.natAbs) hdigits
    have hvalue : withSign true (value (digits i.natAbs)) = i := by
      show -((value (digits i.natAbs) : Nat) : Int) = i
      rw [value_digits]
      omega
    rwa [hvalue] at hspelled
  case isFalse hpos =>
    have hspelled := SpellsInteger.mk .absent (digits_ne_nil i.natAbs) hdigits
    have hvalue : withSign false (value (digits i.natAbs)) = i := by
      show ((value (digits i.natAbs) : Nat) : Int) = i
      rw [value_digits]
      omega
    rwa [hvalue] at hspelled

/-! ## Decimals -/

theorem splitFraction_of_head? {cs : List Char} (h : ∀ c ∈ cs.head?, c ≠ '.') :
    splitFraction cs = ([], cs) := by
  unfold splitFraction
  split
  · exact absurd rfl (h '.' rfl)
  · rfl

theorem splitFraction_eq (cs : List Char) :
    (∃ es rest, cs = '.' :: (es ++ rest) ∧ AllDigits es ∧ splitFraction cs = (es, rest)) ∨
      splitFraction cs = ([], cs) := by
  unfold splitFraction
  split
  · refine .inl ⟨_, _, ?_, allDigits_takeWhile _, rfl⟩
    rw [List.takeWhile_append_dropWhile]
  · exact .inr rfl

theorem exponent?_eq_some_iff {cs : List Char} {e : Int} :
    exponent? cs = some e ↔ Exponent e cs := by
  unfold exponent?
  split
  · constructor
    · intro h
      obtain rfl : 0 = e := Option.some.inj h
      exact .absent
    · rintro ⟨⟩
      rfl
  case h_2 letter cs =>
    by_cases hletter : letter = 'e' ∨ letter = 'E'
    · rw [if_pos hletter, integer?_eq_some_iff]
      constructor
      · exact .marked hletter
      · rintro (_ | ⟨-, hcs⟩)
        exact hcs
    · rw [if_neg hletter]
      constructor
      · intro h
        cases h
      · rintro (_ | ⟨hletter', -⟩)
        exact absurd hletter' hletter

/-- What the readers of digits and of a fraction take off the front is a mantissa, if they take any
    digit. -/
theorem mantissa_splitDigits {cs : List Char}
    (hne : ¬ ((splitDigits cs).1 = [] ∧ (splitFraction (splitDigits cs).2).1 = [])) :
    ∃ mantissa, cs = mantissa ++ (splitFraction (splitDigits cs).2).2 ∧
      Mantissa (splitDigits cs).1 (splitFraction (splitDigits cs).2).1 mantissa := by
  have hcs : (splitDigits cs).1 ++ (splitDigits cs).2 = cs := List.takeWhile_append_dropWhile
  have hdigits : AllDigits (splitDigits cs).1 := allDigits_takeWhile cs
  generalize splitDigits cs = split at hne hcs hdigits ⊢
  obtain ⟨whole, behind⟩ := split
  obtain ⟨es, rest, rfl, hes, hsplit⟩ | hsplit := splitFraction_eq behind
  · rw [hsplit] at hne ⊢
    refine ⟨whole ++ '.' :: es, ?_, .pointed (not_and_or.mp hne) hdigits hes⟩
    rw [← hcs, List.append_assoc, List.cons_append]
  · rw [hsplit] at hne ⊢
    refine ⟨whole, hcs.symm, .whole ?_ hdigits⟩
    intro hempty
    exact hne ⟨hempty, rfl⟩

/-- A mantissa is taken off the front, if neither a digit nor a point follows it. -/
theorem splitDigits_mantissa {whole fraction mantissa rest : List Char}
    (h : Mantissa whole fraction mantissa)
    (hrest : ∀ c ∈ rest.head?, c.isDigit = false ∧ c ≠ '.') :
    (splitDigits (mantissa ++ rest)).1 = whole ∧
      splitFraction (splitDigits (mantissa ++ rest)).2 = (fraction, rest) := by
  have hdigit : ∀ c ∈ rest.head?, c.isDigit = false := fun c hc => (hrest c hc).1
  cases h with
  | whole hne hdigits =>
    rw [splitDigits_append hdigits hdigit]
    exact ⟨rfl, splitFraction_of_head? fun c hc => (hrest c hc).2⟩
  | pointed hne hdigits hdigits' =>
    have hpoint : ∀ c ∈ ('.' :: (fraction ++ rest)).head?, c.isDigit = false := by
      intro c hc
      obtain rfl : '.' = c := Option.some.inj hc
      decide
    rw [List.append_assoc, List.cons_append, splitDigits_append hdigits hpoint]
    exact ⟨rfl, splitDigits_append hdigits' hdigit⟩

theorem Mantissa.ne_nil {whole fraction mantissa : List Char}
    (h : Mantissa whole fraction mantissa) : ¬ (whole = [] ∧ fraction = []) := by
  cases h with
  | whole hne => exact fun hempty => hne hempty.1
  | pointed hne => exact not_and_or.mpr hne

/-- A mantissa begins with a digit or with its point. -/
theorem Mantissa.head? {whole fraction mantissa : List Char}
    (h : Mantissa whole fraction mantissa) (rest : List Char) :
    ∃ c ∈ (mantissa ++ rest).head?, c.isDigit = true ∨ c = '.' := by
  cases h with
  | whole hne hdigits =>
    obtain ⟨d, ds, rfl⟩ := List.exists_cons_of_ne_nil hne
    exact ⟨d, rfl, .inl (hdigits d List.mem_cons_self)⟩
  | pointed hne hdigits =>
    cases whole with
    | nil => exact ⟨'.', rfl, .inr rfl⟩
    | cons d ds => exact ⟨d, rfl, .inl (hdigits d List.mem_cons_self)⟩

theorem Exponent.head? {exponent : List Char} {e : Int} (h : Exponent e exponent) :
    ∀ c ∈ exponent.head?, c.isDigit = false ∧ c ≠ '.' := by
  cases h with
  | absent => nofun
  | marked hletter =>
    intro c hc
    obtain rfl := Option.some.inj hc
    obtain rfl | rfl := hletter <;> decide

theorem parts?_eq_some_iff {cs : List Char} {p : Parts} :
    parts? cs = some p ↔ ∃ sign mantissa exponent, cs = sign ++ (mantissa ++ exponent) ∧
      Sign p.negative sign ∧ Mantissa p.whole p.fraction mantissa ∧
        Exponent p.exponent exponent := by
  unfold parts?
  dsimp only
  constructor
  · intro h
    split at h
    case isTrue => cases h
    case isFalse hne =>
      obtain ⟨e, he, rfl⟩ := Option.map_eq_some_iff.mp h
      obtain ⟨sign, hsign, hcs⟩ := sign_splitSign cs
      obtain ⟨mantissa, hbehind, hmantissa⟩ := mantissa_splitDigits hne
      refine ⟨sign, mantissa, _, ?_, hsign, hmantissa, exponent?_eq_some_iff.mp he⟩
      rw [← hbehind]
      exact hcs
  · rintro ⟨sign, mantissa, exponent, rfl, hsign, hmantissa, hexponent⟩
    have hsigns : ∀ c ∈ (mantissa ++ exponent).head?, c ≠ '-' ∧ c ≠ '+' := by
      intro c hc
      obtain ⟨d, hd, hkind⟩ := hmantissa.head? exponent
      obtain rfl : d = c := Option.mem_unique hd hc
      obtain hdigit | rfl := hkind
      · exact ne_signs_of_isDigit hdigit
      · decide
    obtain ⟨hwhole, hfraction⟩ := splitDigits_mantissa hmantissa hexponent.head?
    rw [splitSign_append hsign hsigns]
    dsimp only
    rw [hwhole, hfraction, if_neg hmantissa.ne_nil, exponent?_eq_some_iff.mpr hexponent]
    rfl

/-! ## Floating point numbers -/

theorem toLower_of_isDigit {c : Char} (h : c.isDigit = true) : c.toLower = c := by
  have hdigit : 48 ≤ c.toNat ∧ c.toNat ≤ 57 := by
    simpa [Char.isDigit, UInt32.le_iff_toNat_le] using h
  exact Text.toLower_of_not_capital (by omega)

theorem Word.lower_mem {negative : Bool} {word : List Char} {x : Binary64}
    (h : Word negative word x) : word.map Char.toLower ∈ nanWord :: infinityWords := by
  cases h with
  | infinity h => exact List.mem_cons_of_mem _ h
  | nan h => exact h ▸ List.mem_cons_self

/-- A word has neither digits nor signs in it, in any case of its letters. -/
theorem Word.letters {negative : Bool} {word : List Char} {x : Binary64}
    (h : Word negative word x) : ∀ c ∈ word, c.isDigit = false ∧ c ≠ '-' ∧ c ≠ '+' := by
  have hwords : ∀ w ∈ nanWord :: infinityWords,
      (w.all fun c => !c.isDigit && c != '-' && c != '+') = true := by decide
  intro c hc
  have hlower := List.all_eq_true.mp (hwords _ h.lower_mem) c.toLower (List.mem_map_of_mem hc)
  simp only [Bool.and_eq_true, Bool.not_eq_true', bne_iff_ne, and_assoc] at hlower
  refine ⟨?_, ?_, ?_⟩
  · by_contra hdigit
    rw [Bool.not_eq_false] at hdigit
    rw [toLower_of_isDigit hdigit, hdigit] at hlower
    exact absurd hlower.1 (by decide)
  · rintro rfl
    exact hlower.2.1 rfl
  · rintro rfl
    exact hlower.2.2 rfl

theorem word?_eq_some_iff {cs : List Char} {x : Binary64} :
    word? cs = some x ↔
      ∃ negative sign word, cs = sign ++ word ∧ Sign negative sign ∧ Word negative word x := by
  have hinfinity : ∀ word : List Char,
      word = "inf".toList ∨ word = "infinity".toList ↔ word ∈ infinityWords := by
    simp [infinityWords]
  unfold word?
  simp only [hinfinity]
  constructor
  · intro h
    obtain ⟨sign, hsign, hcs⟩ := sign_splitSign cs
    refine ⟨_, sign, _, hcs, hsign, ?_⟩
    split at h
    case isTrue hword =>
      obtain rfl := Option.some.inj h
      exact .infinity hword
    case isFalse =>
      split at h
      case isTrue hword =>
        obtain rfl := Option.some.inj h
        exact .nan hword
      case isFalse => cases h
  · rintro ⟨negative, sign, word, rfl, hsign, hword⟩
    rw [splitSign_append hsign fun c hc => (hword.letters c (List.mem_of_head? hc)).2]
    cases hword with
    | infinity hword => exact if_pos hword
    | nan hword =>
      dsimp only
      rw [hword]
      rfl

theorem Mantissa.exists_digit {whole fraction mantissa : List Char}
    (h : Mantissa whole fraction mantissa) : ∃ c ∈ mantissa, c.isDigit = true := by
  cases h with
  | whole hne hdigits =>
    obtain ⟨d, hd⟩ := List.exists_mem_of_ne_nil _ hne
    exact ⟨d, hd, hdigits d hd⟩
  | pointed hne hdigits hdigits' =>
    obtain hne | hne := hne
    · obtain ⟨d, hd⟩ := List.exists_mem_of_ne_nil _ hne
      exact ⟨d, List.mem_append_left _ hd, hdigits d hd⟩
    · obtain ⟨d, hd⟩ := List.exists_mem_of_ne_nil _ hne
      exact ⟨d, List.mem_append_right _ (List.mem_cons_of_mem _ hd), hdigits' d hd⟩

theorem Sign.isDigit {negative : Bool} {sign : List Char} (h : Sign negative sign) :
    ∀ c ∈ sign, c.isDigit = false := by
  cases h with
  | absent => nofun
  | plus | minus => exact List.forall_mem_singleton.mpr rfl

/-- A decimal has a digit in it, and so is no word. -/
theorem word?_decimal {sign mantissa whole fraction exponent : List Char}
    (hmantissa : Mantissa whole fraction mantissa) :
    word? (sign ++ (mantissa ++ exponent)) = none := by
  obtain ⟨d, hd, hdigit⟩ := hmantissa.exists_digit
  rw [Option.eq_none_iff_forall_ne_some]
  intro x hx
  obtain ⟨negative, sign', word, heq, hsign', hword⟩ := word?_eq_some_iff.mp hx
  have hmem : d ∈ sign' ++ word :=
    heq ▸ List.mem_append_right _ (List.mem_append_left _ hd)
  obtain hmem | hmem := List.mem_append.mp hmem
  · exact absurd hdigit (by simp [hsign'.isDigit d hmem])
  · exact absurd hdigit (by simp [(hword.letters d hmem).1])

theorem float?_eq_some_iff {cs : List Char} {x : Binary64} :
    float? cs = some x ↔ SpellsFloat cs x := by
  unfold float?
  constructor
  · intro h
    obtain hread | ⟨-, hparts⟩ := (Option.orElse_eq_some _ _ _).mp h
    · obtain ⟨negative, sign, word, rfl, hsign, hword⟩ := word?_eq_some_iff.mp hread
      exact .word hsign hword
    · obtain ⟨p, hp, rfl⟩ := Option.map_eq_some_iff.mp hparts
      obtain ⟨sign, mantissa, exponent, rfl, hsign, hmantissa, hexponent⟩ :=
        parts?_eq_some_iff.mp hp
      exact .decimal hsign hmantissa hexponent
  · intro h
    apply (Option.orElse_eq_some _ _ _).mpr
    cases h with
    | word hsign hword =>
      exact .inl (word?_eq_some_iff.mpr ⟨_, _, _, rfl, hsign, hword⟩)
    | @decimal negative sign whole fraction mantissa exponent e hsign hmantissa hexponent =>
      have hparts : parts? (sign ++ (mantissa ++ exponent)) = some ⟨negative, whole, fraction, e⟩ :=
        parts?_eq_some_iff.mpr ⟨sign, mantissa, exponent, rfl, hsign, hmantissa, hexponent⟩
      refine .inr ⟨word?_decimal hmantissa, ?_⟩
      rw [hparts]
      rfl

/-! ## Integers, words and decimals apart -/

theorem SpellsInteger.spellsFloat {cs : List Char} {i : Int} (h : SpellsInteger cs i) :
    ∃ x, SpellsFloat cs x := by
  obtain ⟨hsign, hne, hdigits⟩ := h
  have hdecimal := SpellsFloat.decimal hsign (.whole hne hdigits) .absent
  rw [List.append_nil] at hdecimal
  exact ⟨_, hdecimal⟩

/-- The words with each sign in front of them. -/
def signedWords : List (List Char) :=
  (nanWord :: infinityWords).flatMap fun word => [word, '+' :: word, '-' :: word]

/-- A floating point number is spelled with a digit, or as a word. -/
theorem SpellsFloat.digit_or_word {cs : List Char} {x : Binary64} (h : SpellsFloat cs x) :
    (∃ c ∈ cs, c.isDigit = true) ∨ cs.map Char.toLower ∈ signedWords := by
  cases h with
  | word hsign hword =>
    apply Or.inr
    rw [List.map_append]
    refine List.mem_flatMap.mpr ⟨_, hword.lower_mem, ?_⟩
    cases hsign with
    | absent => exact List.mem_cons_self
    | plus => exact List.mem_cons_of_mem _ List.mem_cons_self
    | minus => exact List.mem_cons_of_mem _ (List.mem_cons_of_mem _ List.mem_cons_self)
  | decimal _ hmantissa _ =>
    obtain ⟨d, hd, hdigit⟩ := hmantissa.exists_digit
    exact .inl ⟨d, List.mem_append_right _ (List.mem_append_left _ hd), hdigit⟩

/-- Other words are no numbers, in whatever case they are written. -/
theorem not_spellsFloat {cs : List Char} (hletters : ∀ c ∈ cs.map Char.toLower, c.isDigit = false)
    (hword : cs.map Char.toLower ∉ signedWords) (x : Binary64) : ¬ SpellsFloat cs x := by
  intro h
  obtain ⟨d, hd, hdigit⟩ | hmem := h.digit_or_word
  · have hlower := hletters _ (List.mem_map_of_mem hd)
    rw [toLower_of_isDigit hdigit, hdigit] at hlower
    cases hlower
  · exact hword hmem

/-- How a floating point number begins. -/
theorem SpellsFloat.head? {cs : List Char} {x : Binary64} (h : SpellsFloat cs x) :
    ∀ c ∈ cs.head?, c ∈ ['-', '+', '.'] ∨ c.isDigit = true ∨ c.toLower ∈ ['i', 'n'] := by
  intro c hc
  cases h with
  | word hsign hword =>
    cases hsign with
    | plus | minus =>
      obtain rfl := Option.some.inj hc
      exact .inl (by decide)
    | absent =>
      have hwords : ∀ w ∈ nanWord :: infinityWords, ∀ c ∈ w.head?, c ∈ ['i', 'n'] := by
        simp [nanWord, infinityWords]
      refine .inr (.inr (hwords _ hword.lower_mem _ ?_))
      rw [List.head?_map]
      exact Option.mem_map_of_mem Char.toLower hc
  | decimal hsign hmantissa _ =>
    cases hsign with
    | plus | minus =>
      obtain rfl := Option.some.inj hc
      exact .inl (by decide)
    | absent =>
      obtain ⟨d, hd, hkind⟩ := hmantissa.head? _
      obtain rfl : d = c := Option.mem_unique hd hc
      obtain hdigit | rfl := hkind
      · exact .inr (.inl hdigit)
      · exact .inl (by decide)

end RecordSql.Numeral
