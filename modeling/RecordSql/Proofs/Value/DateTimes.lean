import RecordSql.Database.Basic
import RecordSql.Proofs.Calendar.RoundTrip
import RecordSql.Proofs.Number.Grammar
import RecordSql.Value.Loose

/-!
# Values of dates and times through texts

A date and time is bound as a text, and typed as one. Such a text begins like a number, but the
hyphen behind its year is none of a number, so nothing that is tried before a date takes it.

* `Hyphenated`: how a date begins.
* `Value.ofLooseText_of_hyphenated`: a text that begins so is a date and time, or a text.
* `dateTime_of_text`: what comes back of a date and time.
-/

namespace RecordSql

open Calendar Numeral

/-- The text begins with digits, behind an optional sign, and a hyphen. -/
def Hyphenated (cs : List Char) : Prop :=
  ∃ sign ds rest, cs = sign ++ (ds ++ '-' :: rest) ∧
    (sign = [] ∨ sign = ['-'] ∨ sign = ['+']) ∧ ds ≠ [] ∧ ∀ c ∈ ds, c.isDigit = true

theorem hyphenated_date_append (t : DateTime) (rest : List Char) :
    Hyphenated (Pattern.date.write t ++ rest) := by
  have hwrite : Pattern.date.write t ++ rest =
      writeYear t.date.year ++ '-' :: (Pattern.write (Pattern.date.drop 2) t ++ rest) :=
    List.append_assoc _ _ _
  have hdigits : ∀ c ∈ padded 4 t.date.year.natAbs, c.isDigit = true :=
    fun _ => isDigit_of_mem_padded
  rw [hwrite, writeYear]
  split
  · exact ⟨[], _, _, rfl, .inl rfl, padded_ne_nil _ _, hdigits⟩
  · split
    · exact ⟨['-'], _, _, rfl, .inr (.inl rfl), padded_ne_nil _ _, hdigits⟩
    · exact ⟨['+'], _, _, rfl, .inr (.inr rfl), padded_ne_nil _ _, hdigits⟩

theorem hyphenated_joined (t : DateTime) : Hyphenated (Pattern.joined.write t) := by
  rw [Pattern.joined, Pattern.write_append]
  exact hyphenated_date_append t _

theorem hyphenated_date (t : DateTime) : Hyphenated (Pattern.date.write t) := by
  rw [← List.append_nil (Pattern.date.write t)]
  exact hyphenated_date_append t []

/-! ## No numbers -/

theorem natural?_of_hyphen {cs : List Char} (h : '-' ∈ cs) : natural? cs = none := by
  refine if_neg fun hall => ?_
  exact absurd (List.all_eq_true.mp hall.2 '-' h) (by decide)

namespace Hyphenated

variable {cs : List Char}

theorem mem_tail (h : Hyphenated cs) : '-' ∈ cs.tail := by
  obtain ⟨sign, ds, rest, rfl, hsign, hne, -⟩ := h
  obtain ⟨d, ds, rfl⟩ := List.exists_cons_of_ne_nil hne
  obtain rfl | rfl | rfl := hsign <;> simp

theorem mem (h : Hyphenated cs) : '-' ∈ cs :=
  List.mem_of_mem_tail h.mem_tail

theorem integer?_eq_none (h : Hyphenated cs) : integer? cs = none := by
  unfold integer?
  split
  · exact congrArg (Option.map Int.ofNat) (natural?_of_hyphen h.mem_tail)
  · exact congrArg (Option.map fun n => -Int.ofNat n) (natural?_of_hyphen h.mem_tail)
  · exact congrArg (Option.map Int.ofNat) (natural?_of_hyphen h.mem)

theorem splitSign_snd (h : Hyphenated cs) :
    ∃ ds rest, (splitSign cs).2 = ds ++ '-' :: rest ∧ ds ≠ [] ∧ ∀ c ∈ ds, c.isDigit = true := by
  obtain ⟨sign, ds, rest, rfl, hsign, hne, hdigits⟩ := h
  refine ⟨ds, rest, ?_, hne, hdigits⟩
  obtain rfl | rfl | rfl := hsign
  · obtain ⟨d, ds, rfl⟩ := List.exists_cons_of_ne_nil hne
    have hhead : ∀ c ∈ (d :: ds ++ '-' :: rest).head?, c ≠ '-' ∧ c ≠ '+' := by
      intro c hc
      obtain rfl : d = c := Option.some.inj hc
      exact ne_signs_of_isDigit (hdigits d List.mem_cons_self)
    rw [splitSign_append .absent hhead]
  · rfl
  · rfl

theorem word?_eq_none (h : Hyphenated cs) : Numeral.word? cs = none := by
  obtain ⟨ds, rest, hsplit, -⟩ := h.splitSign_snd
  have hmem : '-' ∈ (splitSign cs).2.map Char.toLower := by
    rw [hsplit]
    exact List.mem_map.mpr ⟨'-', by simp, by decide⟩
  have hne : ∀ word : List Char, '-' ∉ word → (splitSign cs).2.map Char.toLower ≠ word :=
    fun word hword heq => hword (heq ▸ hmem)
  unfold Numeral.word?
  dsimp only
  rw [if_neg (not_or_intro (hne _ (by decide)) (hne _ (by decide))), if_neg (hne _ (by decide))]

theorem parts?_eq_none (h : Hyphenated cs) : parts? cs = none := by
  obtain ⟨ds, rest, hsplit, hne, hdigits⟩ := h.splitSign_snd
  have hwhole : (ds ++ '-' :: rest).takeWhile Char.isDigit = ds := by
    rw [List.takeWhile_append_of_pos hdigits, List.takeWhile_cons_of_neg (by decide),
      List.append_nil]
  have hbehind : (ds ++ '-' :: rest).dropWhile Char.isDigit = '-' :: rest := by
    rw [List.dropWhile_append_of_pos hdigits, List.dropWhile_cons_of_neg (by decide)]
  unfold parts?
  simp only [hsplit, splitDigits, hwhole, hbehind]
  -- the hyphen is neither a point nor the letter of an exponent
  simp [splitFraction, exponent?, hne]

theorem float?_eq_none (h : Hyphenated cs) : float? cs = none := by
  rw [float?, h.word?_eq_none, h.parts?_eq_none]
  rfl

theorem ne_of_not_mem (h : Hyphenated cs) {word : List Char} (hword : '-' ∉ word) : cs ≠ word :=
  fun heq => hword (heq ▸ h.mem)

end Hyphenated

/-! ## Loose texts -/

namespace Value

theorem not_equalFold_null {s : String} (h : Hyphenated s.toList) :
    Text.equalFold s "null" = false := by
  have hmem : '-' ∈ (Text.lower s).toList := by
    rw [Text.toList_lower]
    exact List.mem_map.mpr ⟨'-', h.mem, by decide⟩
  rw [← Bool.not_eq_true, Text.equalFold_iff]
  intro heq
  rw [heq, Text.toList_lower] at hmem
  exact absurd hmem (by decide)

theorem ofLooseText_of_hyphenated {s : String} (h : Hyphenated s.toList) :
    ofLooseText s = ((dateTime? s.toList).map .dateTime).getD (.text s) := by
  have hword : word? s.toList = none := by rw [word?, h.integer?_eq_none]; rfl
  have htruth : truth? s.toList = none := by
    rw [truth?, if_neg (h.ne_of_not_mem (by decide)), if_neg (h.ne_of_not_mem (by decide))]
  rw [ofLooseText, not_equalFold_null h, hword, h.float?_eq_none, htruth]
  cases dateTime? s.toList <;> rfl

theorem dateTime?_joined (t : DateTime) :
    dateTime? (Pattern.joined.write t) = some t.truncated := by
  rw [dateTime?, Pattern.read_joined]
  rfl

theorem dateTime?_date (t : DateTime) : dateTime? (Pattern.date.write t) = some t.date.start := by
  rw [dateTime?, Pattern.read_joined_date, Pattern.read_date]
  rfl

theorem ofLooseText_of_dateTime? {cs : List Char} {t : DateTime} (h : Hyphenated cs)
    (ht : dateTime? cs = some t) : ofLooseText (String.ofList cs) = .dateTime t := by
  rw [ofLooseText_of_hyphenated (by rwa [String.toList_ofList]), String.toList_ofList, ht]
  rfl

/-! ## Texts of cells -/

theorem readDateTime_spaced (t : DateTime) :
    readDateTime (String.ofList (Pattern.spaced.write t)) = .ok t.truncated := by
  rw [readDateTime, String.toList_ofList, Pattern.read_spaced]

/-- The joined form is read second, and the first reading of it fails. -/
theorem readDateTime_joined (t : DateTime) :
    readDateTime (String.ofList (Pattern.joined.write t)) = .ok t.truncated := by
  rw [readDateTime, String.toList_ofList, Pattern.read_spaced_joined, Pattern.read_joined]

theorem decode_text {s : String} {t : DateTime} (column : String) (h : readDateTime s = .ok t) :
    (Value.text s).decode column .dateTime = .ok t := by
  show ((readDateTime s).mapError ConversionError.dateTime).mapError _ = _
  rw [h]
  rfl

end Value

/-- **Dates and times through texts.** A date and time is bound as the text that is shown of it. As
    the text of a cell that one, and the one with the time joined to the date, convert to the date
    and time without the fraction of its second, where a leap second stays a leap second. Typed, the
    joined form is the same date and time, and the date alone the start of the day. -/
theorem dateTime_of_text (t : DateTime) (column : String) :
    let shown := (Value.dateTime t).display
    let joined := String.ofList (Pattern.joined.write t)
    let date := String.ofList (Pattern.date.write t)
    (Value.dateTime t).bound = .text shown ∧
      (Value.text shown).decode column .dateTime = .ok t.truncated ∧
      (Value.text joined).decode column .dateTime = .ok t.truncated ∧
      Value.ofLooseText joined = .dateTime t.truncated ∧
      Value.ofLooseText date = .dateTime t.date.start :=
  ⟨rfl, Value.decode_text column (Value.readDateTime_spaced t),
    Value.decode_text column (Value.readDateTime_joined t),
    Value.ofLooseText_of_dateTime? (hyphenated_joined t) (Value.dateTime?_joined t),
    Value.ofLooseText_of_dateTime? (hyphenated_date t) (Value.dateTime?_date t)⟩

/-- A leap second of a year before the first. -/
example : Value.ofLooseText "-0044-03-15T23:59:60" =
    .dateTime ⟨⟨-44, 3, 15, by decide⟩, ⟨23, 59, 59, nanosPerSecond, by decide⟩⟩ := by
  rfl

end RecordSql
