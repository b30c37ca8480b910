import RecordSql.Compiler.Basic
import RecordSql.Proofs.Value.Literals

/-!
# Null tests

Nothing is equal to null in SQL, so a field is tested with `is` where the literal is the null token.
Which values are tested so is said apart from how literals are written. The two agree for every
value but one: a value of unknown kind stands in a clause as its text, and that text can be the
token.

* `Value.literal_eq_nullToken_iff`: the values that are written as the token.
* `Compiler.literalCondition_eq`: what a condition reads.
* `nullTest_of_literal`: the conditions of a clause, and which of them compare with the token.
-/

namespace RecordSql

/-! ## Literals that are the null token -/

theorem IsNumeric.ne_nullToken {s : String} (h : IsNumeric s.toList) : s ≠ Value.nullToken := by
  rintro rfl
  have hfirst := h 'n' (by decide)
  revert hfirst
  decide

theorem Binary64.display_ne_nullToken (x : Binary64) : x.display ≠ Value.nullToken := by
  intro h
  obtain hword | hnumeric := x.display_cases
  · rw [h] at hword
    revert hword
    decide
  · exact hnumeric.ne_nullToken h

namespace Value

theorem integerText_ne_nullToken (i : Int) : integerText i ≠ nullToken := by
  apply IsNumeric.ne_nullToken
  rw [integerText, String.toList_ofList]
  exact isNumeric_signed i

theorem enclosed_ne_nullToken (s : String) : "'" ++ s ++ "'" ≠ nullToken := by
  intro h
  have hlist := congrArg String.toList h
  simp [nullToken] at hlist

/-- The payload of no number, no truth value and no date is written as the token, and a text is
    only if it is empty. -/
theorem literal_eq_nullToken_iff (v : Value) :
    v.literal = nullToken ↔ v.isNullLiteral = true ∨ v = .other nullToken := by
  cases v with
  | null => simp [literal, isNullLiteral]
  | bool b => cases b <;> decide
  | int n | enumeration n =>
    simpa [literal, display, isNullLiteral] using integerText_ne_nullToken n.toInt
  | uint n => simpa [literal, display, isNullLiteral] using integerText_ne_nullToken n.toNat
  | float x => simpa [literal, display, isNullLiteral] using x.display_ne_nullToken
  | dateTime t => simpa [literal, isNullLiteral] using enclosed_ne_nullToken _
  | text s =>
    by_cases h : s.isEmpty = true
    · simp [literal, isNullLiteral, h]
    · simpa [literal, isNullLiteral, h] using enclosed_ne_nullToken s
  | other s => simp [literal, display, isNullLiteral]

theorem isNullLiteral_iff (v : Value) :
    v.isNullLiteral = true ↔ v.literal = nullToken ∧ v ≠ .other nullToken := by
  rw [literal_eq_nullToken_iff]
  constructor
  · intro h
    refine ⟨.inl h, ?_⟩
    rintro rfl
    exact absurd h (by decide)
  · rintro ⟨h | h, hne⟩
    · exact h
    · exact absurd h hne

end Value

/-! ## Conditions -/

namespace Compiler

open Value

theorem literalCondition_eq (c : Compiler) (field : String) (v : Value) :
    c.literalCondition field v =
      c.quote field ++
        if v.literal = nullToken ∧ v ≠ .other nullToken then " is null" else "=" ++ v.literal := by
  unfold literalCondition
  by_cases h : v.isNullLiteral = true
  · have hliteral := v.isNullLiteral_iff.mp h
    rw [if_pos h, if_pos hliteral, hliteral.1, String.append_assoc]
    rfl
  · rw [if_neg h, if_neg (mt v.isNullLiteral_iff.mpr h), String.append_assoc]

theorem literalCondition_eq_compared_iff (c : Compiler) (field : String) (v : Value) :
    c.literalCondition field v = c.quote field ++ "=null" ↔ v = .other nullToken := by
  rw [literalCondition_eq, String.append_right_inj]
  split
  case isTrue h => simp [h.2]
  case isFalse h =>
    have hequals : "=null" = "=" ++ nullToken := rfl
    rw [hequals, String.append_right_inj]
    constructor
    · intro hliteral
      by_contra hne
      exact h ⟨hliteral, hne⟩
    · rintro rfl
      rfl

end Compiler

/-- **Null tests and literals.** For every value, the test with `is` and the null token go together,
    unless the value is of unknown kind and its text is the token. So in every clause, in every
    dialect and with every quoting, a condition tests for null where the literal is the token and
    compares with the literal otherwise, but for such values: they, and no others, are compared with
    the token. -/
theorem nullTest_of_literal (c : Compiler) (f : Filters) :
    (∀ v : Value, (v.isNullLiteral = true ↔ v.literal = Value.nullToken) ↔
      v ≠ .other Value.nullToken) ∧
    (c.whereLiterals f = Compiler.whereClause (f.entries.map fun e =>
      c.quote e.1 ++
        if e.2.literal = Value.nullToken ∧ e.2 ≠ .other Value.nullToken then " is null"
        else "=" ++ e.2.literal)) ∧
    ∀ e ∈ f.entries, c.literalCondition e.1 e.2 = c.quote e.1 ++ "=null" ↔
      e.2 = .other Value.nullToken := by
  refine ⟨fun v => ?_, ?_, fun e _ => c.literalCondition_eq_compared_iff e.1 e.2⟩
  · rw [v.isNullLiteral_iff]
    constructor
    · rintro hagree rfl
      exact (hagree.mpr rfl).2 rfl
    · intro hne
      exact and_iff_left hne
  · simp only [Compiler.whereLiterals, Compiler.literalCondition_eq]

/-- A value of unknown kind that is written as the null token is compared with it, which holds for
    no row. -/
theorem other_null_compared :
    let v := Value.other "null"
    v.literal = Value.nullToken ∧ v.isNullLiteral = false ∧
      ({} : Compiler).whereLiterals (.ofList [("Updated", v), ("Ended", .null)]) =
        " WHERE Updated=null AND Ended is null" := by
  refine ⟨?_, ?_, ?_⟩ <;> decide

end RecordSql
