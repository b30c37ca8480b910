import RecordSql.Compiler.Basic
import RecordSql.Database.Basic
import RecordSql.Proofs.CommandLine.Pairs
import RecordSql.Proofs.Number.WideIntegers

/-!
# Integers as typed texts

The text of a signed word, typed as the value of a field, is that word. There are no unsigned words
among typed values, so that the text of one beyond the signed words is a floating point number.

* `Value.ofLooseText_int64`: what becomes of the text of a signed word.
* `Value.ofLooseText_wide`: what becomes of the text of a greater unsigned one.
* `integers_of_typed`: the two, up to the condition that a field is compared in.
-/

namespace RecordSql

open Numeral CommandLine

/-- The value is shown and written as the text, and compared with it in a condition. -/
def Value.WrittenAs (v : Value) (text : String) : Prop :=
  v.display = text ∧ v.literal = text ∧
    ∀ (c : Compiler) (field : String),
      c.literalCondition field v = c.quote field ++ "=" ++ text

/-! ## Texts of integers -/

theorem spellsInteger_integerText {i j : Int} :
    SpellsInteger (Value.integerText i).toList j ↔ i = j := by
  rw [Value.integerText, String.toList_ofList]
  constructor
  · exact (spellsInteger_signed i).unique
  · rintro rfl
    exact spellsInteger_signed i

theorem integerText_inj {i j : Int} : Value.integerText i = Value.integerText j ↔ i = j := by
  constructor
  · intro h
    rw [← spellsInteger_integerText, h, spellsInteger_integerText]
  · exact congrArg Value.integerText

theorem integerText_natCast (n : Nat) : Value.integerText n = String.ofList (digits n) := by
  rw [Value.integerText, signed, if_neg (by omega), Int.natAbs_natCast]

/-- Without an exponent, a decimal within range is the number nearest to its digits. -/
theorem Binary64.ofDecimal_zero {n : Nat} (hn : (digits n).length ≤ 400) :
    Binary64.ofDecimal false n 0 = .ofInt n := by
  have hnegative : ¬ (n : Int) < 0 := by omega
  have hmagnitude : (0 : Int) + (Nat.toDigits 10 n).length ≤ 400 := by
    rw [Int.zero_add]
    exact Int.ofNat_le.mpr hn
  unfold Binary64.ofDecimal Binary64.ofInt
  dsimp only
  rw [decide_eq_false hnegative, Int.natAbs_natCast]
  by_cases hzero : n = 0
  · subst hzero
    rfl
  · rw [if_neg (by omega), if_neg (by omega)]
    exact congrArg (Binary64.ofRatio false · 1) (Nat.mul_one n)

theorem spellsFloat_digits {n : Nat} (hn : (digits n).length ≤ 400) :
    SpellsFloat (digits n) (Binary64.ofInt n) := by
  have hdecimal := SpellsFloat.decimal .absent
    (.whole (digits_ne_nil n) fun _ => isDigit_of_mem_digits) .absent
  have hvalue : Parts.toBinary64 ⟨false, digits n, [], 0⟩ = .ofInt n := by
    show Binary64.ofDecimal false (value (digits n ++ [])) 0 = _
    rw [List.append_nil, value_digits, Binary64.ofDecimal_zero hn]
  rwa [hvalue, List.nil_append, List.append_nil] at hdecimal

namespace Value

/-! ## Typed integers -/

theorem ofLooseText_int64 (n : Int64) : ofLooseText (integerText n.toInt) = .int n :=
  ofLooseText_eq_iff.mpr (.spelled (.int (spellsInteger_integerText.mpr rfl)) nofun)

/-- Beyond the signed words an integer is a floating point number, as any other decimal. -/
theorem ofLooseText_wide {n : Nat} (hlo : 2 ^ 63 ≤ n) (hhi : n < 2 ^ 64) :
    ofLooseText (integerText n) = .float (.ofInt n) := by
  have hlength : (digits n).length ≤ 400 :=
    Nat.le_trans ((Nat.length_toDigits_le_iff (by decide) (by decide)).mpr
      (Nat.lt_trans hhi (by decide) : n < 10 ^ 20)) (by decide)
  have hspelled : SpellsFloat (integerText n).toList (.ofInt n) := by
    rw [integerText_natCast, String.toList_ofList]
    exact spellsFloat_digits hlength
  refine ofLooseText_eq_iff.mpr (.spelled (.float hspelled) fun _ w hint => ?_)
  cases hint with
  | @int m h =>
    have hm := spellsInteger_integerText.mp h
    have hmax := m.toInt_lt
    omega

theorem writtenAs_int (n : Int64) : (Value.int n).WrittenAs (integerText n.toInt) :=
  ⟨rfl, rfl, fun _ _ => rfl⟩

theorem writtenAs_wide {n : Nat} (hlo : 2 ^ 63 ≤ n) (hhi : n < 2 ^ 64) :
    (Value.float (.ofInt n)).WrittenAs (integerText (shown n)) := by
  have hdisplay : (Value.float (.ofInt n)).display = integerText (shown n) := by
    rw [integerText_natCast]
    exact Binary64.display_ofInt_wide hlo hhi
  refine ⟨hdisplay, hdisplay, fun c field => ?_⟩
  rw [← hdisplay]
  rfl

theorem WrittenAs.unique {v : Value} {text text' : String} (h : v.WrittenAs text)
    (h' : v.WrittenAs text') : text = text' :=
  h.1.symm.trans h'.1

end Value

open Value

/-- **Integers as typed texts.** The text of a signed word, typed as the value of a field, is that
    word; it is shown, written and compared with as the text, and bound as the word. That is so of
    an unsigned word too that is a signed one. The text of a greater one is a floating point number,
    whose value is the multiple of `2048` nearest to it. What is shown and written of that, and
    compared with, is a multiple of a thousand, so that the text comes back only of such words, and
    of all multiples of ten thousand. -/
theorem integers_of_typed (field : String) (hfield : field ≠ "" ∧ '=' ∉ field.toList) :
    (∀ n : Int64,
      readPair (field ++ "=" ++ integerText n.toInt) = .ok (field, .int n) ∧
        (Value.int n).WrittenAs (integerText n.toInt) ∧ (Value.int n).bound = .int n) ∧
      (∀ n : UInt64, n.toNat < 2 ^ 63 → ∃ m : Int64, m.toInt = n.toNat ∧
        readPair (field ++ "=" ++ integerText n.toNat) = .ok (field, .int m)) ∧
      ∀ n : UInt64, 2 ^ 63 ≤ n.toNat → ∃ x : Binary64,
        readPair (field ++ "=" ++ integerText n.toNat) = .ok (field, .float x) ∧
          x.ratio = (nearestMultiple 2048 n.toNat, 1) ∧ (Value.float x).bound = .float x ∧
            (Value.float x).WrittenAs (integerText (shown n.toNat)) ∧
              ((Value.float x).WrittenAs (integerText n.toNat) ↔ shown n.toNat = n.toNat) ∧
                1000 ∣ shown n.toNat ∧ (10000 ∣ n.toNat → shown n.toNat = n.toNat) := by
  have hread : ∀ text : String,
      readPair (field ++ "=" ++ text) = .ok (field, ofLooseText text) :=
    fun text => readPair_eq_ok_iff.mpr ⟨text, rfl, hfield.1, hfield.2, rfl⟩
  refine ⟨fun n => ?_, fun n hn => ?_, fun n hlo => ?_⟩
  · rw [hread, ofLooseText_int64]
    exact ⟨rfl, writtenAs_int n, rfl⟩
  · have hm : (Int64.ofInt n.toNat).toInt = n.toNat :=
      Int64.toInt_ofInt_of_le (by omega) (by omega)
    have htext := ofLooseText_int64 (Int64.ofInt n.toNat)
    rw [hm] at htext
    refine ⟨Int64.ofInt n.toNat, hm, ?_⟩
    rw [hread, htext]
  · have hhi := n.toNat_lt
    have hwritten := writtenAs_wide hlo hhi
    refine ⟨.ofInt n.toNat, ?_, Binary64.ratio_ofInt_wide hlo hhi, rfl, hwritten, ?_,
      Binary64.thousand_dvd_shown _, Binary64.shown_of_dvd⟩
    · rw [hread, ofLooseText_wide hlo hhi]
    · constructor
      · intro htext
        exact Int.ofNat_inj.mp (integerText_inj.mp (hwritten.unique htext))
      · intro hkept
        rwa [hkept] at hwritten

/-- The greatest signed word is kept, and the greatest unsigned one is not. -/
theorem integers_of_typed_greatest :
    ("Id" ≠ "" ∧ '=' ∉ "Id".toList) ∧
      readPair "Id=9223372036854775807" = .ok ("Id", .int Int64.maxValue) ∧
        ∃ x : Binary64, readPair "Id=18446744073709551615" = .ok ("Id", .float x) ∧
          (Value.float x).WrittenAs "18446744073709552000" := by
  have hfield : "Id" ≠ "" ∧ '=' ∉ "Id".toList := by decide
  obtain ⟨hsigned, -, hwide⟩ := integers_of_typed "Id" hfield
  have hint := hsigned Int64.maxValue
  have hmax : "Id" ++ "=" ++ integerText Int64.maxValue.toInt = "Id=9223372036854775807" := by
    decide
  rw [hmax] at hint
  obtain ⟨x, hx, -, -, hwritten, -⟩ := hwide 18446744073709551615 (by decide)
  have htyped : "Id" ++ "=" ++ integerText (18446744073709551615 : UInt64).toNat =
      "Id=18446744073709551615" := by
    decide
  have hshown : integerText (shown (18446744073709551615 : UInt64).toNat) =
      "18446744073709552000" := by
    decide +kernel
  rw [htyped] at hx
  rw [hshown] at hwritten
  exact ⟨hfield, hint.1, x, hx, hwritten⟩

/-- The text of the greatest unsigned word comes back as that of an integer beyond all words. -/
theorem greatest_word_rounded :
    let n : UInt64 := 18446744073709551615
    let v := ofLooseText (integerText n.toNat)
    v.display = "18446744073709552000" ∧ v.literal = "18446744073709552000" ∧
      ¬ v.WrittenAs (integerText n.toNat) := by
  refine ⟨by decide +kernel, by decide +kernel, fun hwritten => ?_⟩
  exact absurd hwritten.1 (by decide +kernel)

end RecordSql
