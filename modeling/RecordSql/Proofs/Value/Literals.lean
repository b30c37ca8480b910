import Mathlib.Data.List.Basic
import RecordSql.Value.Basic

/-!
# Where literals end

Literals stand in a clause without anything escaped. One of a number, a truth value or null has
neither blanks nor quotes in it; one of a date or a text stands between quotes and has none inside,
unless the text has. So a literal shows where it ends, but for those of texts with quotes and of
values of unknown kind.

* `isPlain_write_date`, `isPlain_display`: the characters of dates and of numbers.
* `Binary64.display_cases`: how floating point numbers are shown.
* `Value.isLiteral_literal`: the literals that show where they end.
-/

namespace RecordSql

open Numeral Calendar

/-! ## Plain texts -/

/-- There are neither blanks nor quotes in the text. -/
def IsPlain (cs : List Char) : Prop :=
  ∀ ch ∈ cs, ch ≠ ' ' ∧ ch ≠ '\x27'

instance (cs : List Char) : Decidable (IsPlain cs) :=
  List.decidableBAll _ cs

section Plain

variable {cs ds : List Char}

@[simp]
theorem isPlain_nil : IsPlain [] := nofun

@[simp]
theorem isPlain_cons {ch : Char} :
    IsPlain (ch :: cs) ↔ (ch ≠ ' ' ∧ ch ≠ '\x27') ∧ IsPlain cs :=
  List.forall_mem_cons

@[simp]
theorem isPlain_append : IsPlain (cs ++ ds) ↔ IsPlain cs ∧ IsPlain ds :=
  List.forall_mem_append

theorem isPlain_of_isDigit (h : ∀ ch ∈ cs, ch.isDigit = true) : IsPlain cs := by
  intro ch hch
  have hdigit := h ch hch
  constructor <;> rintro rfl <;> exact absurd hdigit (by decide)

theorem isPlain_padded (width n : Nat) : IsPlain (padded width n) :=
  isPlain_of_isDigit fun _ => isDigit_of_mem_padded

/-! ## Dates -/

theorem isPlain_writeYear (y : Int) : IsPlain (writeYear y) := by
  unfold writeYear
  split
  · exact isPlain_padded _ _
  · refine isPlain_cons.mpr ⟨?_, isPlain_padded _ _⟩
    split <;> decide

theorem isPlain_write_date (t : DateTime) : IsPlain (Pattern.date.write t) := by
  simp [Pattern.write, Pattern.date, Piece.write, DatePart.write, isPlain_writeYear,
    isPlain_padded]

end Plain

/-! ## Numbers -/

/-- Every character is one of a number that is written without an exponent: a digit, a point or a
    minus sign. -/
def IsNumeric (cs : List Char) : Prop :=
  ∀ ch ∈ cs, ch.isDigit = true ∨ ch = '.' ∨ ch = '-'

section Numeric

variable {cs ds : List Char}

@[simp]
theorem isNumeric_nil : IsNumeric [] := nofun

@[simp]
theorem isNumeric_cons {ch : Char} :
    IsNumeric (ch :: cs) ↔ (ch.isDigit = true ∨ ch = '.' ∨ ch = '-') ∧ IsNumeric cs :=
  List.forall_mem_cons

@[simp]
theorem isNumeric_append : IsNumeric (cs ++ ds) ↔ IsNumeric cs ∧ IsNumeric ds :=
  List.forall_mem_append

theorem IsNumeric.subset (h : IsNumeric ds) (hsubset : cs ⊆ ds) : IsNumeric cs :=
  fun ch hch => h ch (hsubset hch)

theorem IsNumeric.isPlain (h : IsNumeric cs) : IsPlain cs := by
  intro ch hch
  obtain hdigit | rfl | rfl := h ch hch
  · constructor <;> rintro rfl <;> exact absurd hdigit (by decide)
  · decide
  · decide

theorem isNumeric_of_isDigit (h : ∀ ch ∈ cs, ch.isDigit = true) : IsNumeric cs :=
  fun ch hch => .inl (h ch hch)

theorem isNumeric_digits (n : Nat) : IsNumeric (digits n) :=
  isNumeric_of_isDigit fun _ => isDigit_of_mem_digits

theorem isNumeric_replicate_zero (k : Nat) : IsNumeric (List.replicate k '0') :=
  isNumeric_of_isDigit fun _ hch => by rw [List.eq_of_mem_replicate hch]; rfl

theorem isNumeric_signed (i : Int) : IsNumeric (signed i) := by
  unfold signed
  split
  · exact isNumeric_cons.mpr ⟨by decide, isNumeric_digits _⟩
  · exact isNumeric_digits _

theorem isNumeric_stripped (h : IsNumeric ds) (exponent : Int) :
    IsNumeric (Decimal.stripped ds exponent).digits := by
  refine h.subset fun ch hch => ?_
  have := (List.dropWhile_sublist _).subset (List.mem_reverse.mp hch)
  exact List.mem_reverse.mp this

theorem isNumeric_shortest (tie : Tie) (x : Binary64) : IsNumeric (x.shortest tie).digits := by
  unfold Binary64.shortest
  split
  · exact isNumeric_replicate_zero 1
  · dsimp only
    cases hpoint : (List.range 17).findSome? fun n : Nat =>
        (x.gridPoint? tie (x.decimalExponent - n)).map fun c =>
          Decimal.stripped (Nat.toDigits 10 c) (x.decimalExponent - n) with
    | none => exact isNumeric_replicate_zero 1
    | some d =>
      obtain ⟨n, -, hn⟩ := List.exists_of_findSome?_eq_some hpoint
      obtain ⟨c, -, rfl⟩ := Option.map_eq_some_iff.mp hn
      exact isNumeric_stripped (isNumeric_digits c) _

theorem isNumeric_writePositional {d : Decimal} (h : IsNumeric d.digits) :
    IsNumeric (Layout.plain.writePositional d) := by
  have htake := fun k => h.subset (List.take_subset k d.digits)
  have hdrop := fun k => h.subset (List.drop_subset k d.digits)
  unfold Layout.writePositional
  split
  · simp [h, isNumeric_replicate_zero, Layout.plain]
  · dsimp only
    split
    · simp [htake, hdrop]
    · simp [h, isNumeric_replicate_zero]

theorem isNumeric_writeFinite (x : Binary64) : IsNumeric (Layout.plain.writeFinite x).toList := by
  have hdigits : IsNumeric (Layout.plain.writeDecimal (x.shortest Layout.plain.tie)) :=
    isNumeric_writePositional (isNumeric_shortest _ x)
  unfold Layout.writeFinite
  rw [String.toList_ofList]
  split
  · exact isNumeric_cons.mpr ⟨by decide, hdigits⟩
  · exact hdigits

end Numeric

/-- A floating point number is shown as one of three words, or as a number without an exponent. -/
theorem Binary64.display_cases (x : Binary64) :
    x.display ∈ ["NaN", "inf", "-inf"] ∨ IsNumeric x.display.toList := by
  unfold Binary64.display
  split
  · exact .inl (by decide)
  · split
    · split
      · exact .inl (by decide)
      · exact .inl (by decide)
    · exact .inr (isNumeric_writeFinite x)

theorem isPlain_display (x : Binary64) : IsPlain x.display.toList := by
  obtain hword | hnumeric := x.display_cases
  · have hplain : ∀ word ∈ ["NaN", "inf", "-inf"], IsPlain word.toList := by decide
    exact hplain _ hword
  · exact hnumeric.isPlain

/-! ## Literals -/

/-- The text shows where it ends, if a blank or nothing follows: it is plain, or it stands between
    quotes and has none inside. -/
inductive IsLiteral : List Char → Prop
  | plain {cs : List Char} (h : IsPlain cs) : IsLiteral cs
  | enclosed {cs : List Char} (h : '\x27' ∉ cs) : IsLiteral ('\x27' :: (cs ++ ['\x27']))

namespace Value

/-- The value is of a known kind, and without a quote if it is a text. -/
def IsDelimited : Value → Prop
  | .text s => '\x27' ∉ s.toList
  | .other _ => False
  | _ => True

instance (v : Value) : Decidable v.IsDelimited :=
  match v with
  | .text s => inferInstanceAs (Decidable ('\x27' ∉ s.toList))
  | .other _ => isFalse id
  | .null | .bool _ | .int _ | .uint _ | .float _ | .dateTime _ | .enumeration _ => isTrue trivial

theorem isLiteral_enclosed {s : String} (h : '\x27' ∉ s.toList) :
    IsLiteral ("'" ++ s ++ "'").toList := by
  simpa using IsLiteral.enclosed h

theorem isLiteral_integerText (i : Int) : IsLiteral (integerText i).toList := by
  rw [integerText, String.toList_ofList]
  exact .plain (isNumeric_signed i).isPlain

theorem isLiteral_literal {v : Value} (h : v.IsDelimited) : IsLiteral v.literal.toList := by
  cases v with
  | null => exact .plain (by decide)
  | bool b => exact .plain (by cases b <;> decide)
  | int n | enumeration n => exact isLiteral_integerText n.toInt
  | uint n => exact isLiteral_integerText n.toNat
  | float x => exact .plain (isPlain_display x)
  | dateTime t =>
    refine isLiteral_enclosed ?_
    rw [String.toList_ofList]
    exact fun hmem => (isPlain_write_date t _ hmem).2 rfl
  | text s =>
    rw [literal]
    split
    · exact .plain (by decide)
    · exact isLiteral_enclosed h
  | other s => exact absurd h id

end Value

end RecordSql
