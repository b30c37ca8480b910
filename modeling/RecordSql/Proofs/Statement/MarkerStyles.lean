import Mathlib.Data.List.Basic
import RecordSql.Statement.Positional

/-!
# Styles of markers

Which names of a statement become markers, and in which order its values are given, does not depend
on how markers are written. The text does, as soon as there is a marker in it: a numbered one is
longer than a question mark.

* `Positional.replace_styles`: the replacement in both styles.
* `Statement.positional?_styles`: the positional forms in both styles.
* `Statement.positional?_eq_iff`: when the style makes no difference.
-/

namespace RecordSql

namespace Positional

theorem length_marker_numbered (n : Nat) : 2 ≤ (MarkerStyle.numbered.marker n).length := by
  have hdigits : 0 < (Nat.toDigits 10 (n + 1)).length := List.length_pos_iff.mpr Nat.toDigits_ne_nil
  show 2 ≤ (Nat.toDigits 10 (n + 1)).length + 1
  omega

/-- Both replacements fail, or both succeed and the numbered one has at least a character more for
    every claim. -/
theorem replace_styles (n cursor : Nat) (claims : List Claim) (cs : List Char) :
    (replace .question n cursor claims cs = none ∧ replace .numbered n cursor claims cs = none) ∨
      ∃ short long, replace .question n cursor claims cs = some short ∧
        replace .numbered n cursor claims cs = some long ∧
        short.length + claims.length ≤ long.length := by
  induction claims generalizing n cursor cs with
  | nil => exact .inr ⟨cs, cs, rfl, rfl, Nat.le_refl _⟩
  | cons c claims ih =>
    unfold replace
    by_cases hbehind : c.start < cursor
    · exact .inl ⟨if_pos hbehind, if_pos hbehind⟩
    · rw [if_neg hbehind, if_neg hbehind]
      obtain ⟨hshort, hlong⟩ | ⟨short, long, hshort, hlong, hle⟩ :=
        ih (n + 1) (c.start + c.length) (cs.drop (c.start - cursor + c.length))
      · exact .inl (by simp [hshort, hlong])
      · right
        refine ⟨_, _, by simp [hshort]; rfl, by simp [hlong]; rfl, ?_⟩
        have hmarker := length_marker_numbered n
        have hquestion : (MarkerStyle.question.marker n).length = 1 := rfl
        simp only [List.length_append, List.length_cons]
        omega

end Positional

namespace Statement

open Positional

/-- There is a positional form in both styles or in none. The two have the same values, and the same
    text only if there are none. -/
theorem positional?_styles (s : Statement) :
    (s.positional? .question = none ∧ s.positional? .numbered = none) ∨
      ∃ p q : Positional, s.positional? .question = some p ∧ s.positional? .numbered = some q ∧
        p.values = q.values ∧ (p = q ↔ p.values = []) := by
  have hform : ∀ style, s.positional? style =
      (replace style 0 0 (sortClaims (claims s.sql.toList [] s.bindings)) s.sql.toList).map
        fun sql => ⟨String.ofList sql,
          (sortClaims (claims s.sql.toList [] s.bindings)).map Claim.value⟩ := by
    intro style
    rw [Option.map_eq_bind]
    rfl
  generalize sortClaims (claims s.sql.toList [] s.bindings) = claims at hform
  rw [hform, hform]
  obtain ⟨hshort, hlong⟩ | ⟨short, long, hshort, hlong, hle⟩ :=
    replace_styles 0 0 claims s.sql.toList
  · exact .inl (by rw [hshort, hlong]; exact ⟨rfl, rfl⟩)
  · refine .inr ⟨_, _, congrArg _ hshort, congrArg _ hlong, rfl, ?_⟩
    constructor
    · intro hsame
      have htext : short = long := String.ofList_inj.mp (congrArg Positional.sql hsame)
      have hlength : claims.length = 0 := by
        rw [htext] at hle
        omega
      rw [List.eq_nil_of_length_eq_zero hlength]
      rfl
    · intro hvalues
      obtain rfl : claims = [] := List.map_eq_nil_iff.mp hvalues
      -- without claims both replacements keep the text
      obtain rfl : s.sql.toList = short := Option.some.inj hshort
      obtain rfl : s.sql.toList = long := Option.some.inj hlong
      rfl

/-- The values and their order are the same in every style. -/
theorem map_values_positional? (s : Statement) (style other : MarkerStyle) :
    (s.positional? style).map Positional.values = (s.positional? other).map Positional.values := by
  have hboth : (s.positional? .question).map Positional.values =
      (s.positional? .numbered).map Positional.values := by
    obtain ⟨hp, hq⟩ | ⟨p, q, hp, hq, hvalues, -⟩ := s.positional?_styles
    · rw [hp, hq]
    · rw [hp, hq, Option.map_some, Option.map_some, hvalues]
  cases style <;> cases other
  · rfl
  · exact hboth
  · exact hboth.symm
  · rfl

/-- The style makes a difference just if there is a marker. -/
theorem positional?_eq_iff (s : Statement) (style other : MarkerStyle) :
    s.positional? style = s.positional? other ↔
      style = other ∨ ∀ p ∈ s.positional? style, p.values = [] := by
  by_cases hstyle : style = other
  · simp [hstyle]
  rw [or_iff_right hstyle]
  obtain ⟨hp, hq⟩ | ⟨p, q, hp, hq, hvalues, hsame⟩ := s.positional?_styles
  · cases style <;> cases other <;> simp [hp, hq]
  · cases style <;> cases other
    · exact absurd rfl hstyle
    · simp [hp, hq, hsame]
    · simp [hp, hq, ← hvalues, ← hsame, eq_comm]
    · exact absurd rfl hstyle

end Statement

end RecordSql
