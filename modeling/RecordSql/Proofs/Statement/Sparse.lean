import RecordSql.Proofs.Statement.Search
import RecordSql.Text.Basic

/-!
# Sparse templates

The placeholder of a compared field begins with two characters that most names do not hold. Where
they stand at places only, no place is mistaken, whatever the search for the others comes upon.

* `HoldsPlaceholder`: the names that hold the beginning of a placeholder.
* `Sparse.append`, `Sparse.cons_text`, `Sparse.compared`: sparse templates are put together.
* `unmistakable_of_sparse`: the places of a sparse template are not mistaken.
-/

namespace RecordSql

open Text Positional Template

/-! ## Names that hold placeholders -/

/-- The name holds what every placeholder of a compared field begins with. -/
def HoldsPlaceholder (d : Dialect) (name : String) : Prop :=
  [d.marker, 'p'] <:+: name.toList

instance (d : Dialect) (name : String) : Decidable (HoldsPlaceholder d name) :=
  decidable_of_iff (Text.occurs [d.marker, 'p'] name.toList = true) Text.occurs_iff

section Holds

variable {d : Dialect} {s t : String}

theorem Dialect.marker_ne_p (d : Dialect) : d.marker ≠ 'p' := by
  cases d <;> decide

theorem not_holdsPlaceholder_of_notMem (h : d.marker ∉ s.toList) : ¬ HoldsPlaceholder d s :=
  fun hin => h (hin.subset (by simp))

theorem not_holdsPlaceholder_of_isName (h : IsName s) : ¬ HoldsPlaceholder d s :=
  not_holdsPlaceholder_of_notMem (d.marker_notMem_of_isWordChar h)

/-- Two characters that stand next to each other in a text stand so in one of two parts of it,
    unless the second one begins the second part. -/
theorem pair_prefix_drop_append {a b : Char} {l r : List Char} (hr : r.head? ≠ some b) {j : Nat}
    (h : [a, b] <+: (l ++ r).drop j) :
    [a, b] <+: l.drop j ∨ l.length ≤ j ∧ [a, b] <+: r.drop (j - l.length) := by
  rw [List.drop_append] at h
  by_cases hj : l.length ≤ j
  · rw [List.drop_eq_nil_of_le hj, List.nil_append] at h
    exact .inr ⟨hj, h⟩
  · left
    rw [show j - l.length = 0 by omega, List.drop_zero] at h
    rw [List.drop_eq_getElem_cons (by omega), List.cons_append, List.cons_prefix_cons] at h
    rw [List.drop_eq_getElem_cons (by omega), List.cons_prefix_cons]
    refine ⟨h.1, ?_⟩
    cases hl : l.drop (j + 1) with
    | nil =>
      rw [hl, List.nil_append] at h
      obtain ⟨after, rfl⟩ := h.2
      exact absurd rfl hr
    | cons c rest =>
      rw [hl, List.cons_append, List.cons_prefix_cons] at h
      exact List.cons_prefix_cons.mpr ⟨h.2.1, List.nil_prefix⟩

theorem head?_ne_of_continuesName {cs : List Char} (h : continuesName cs = false) :
    cs.head? ≠ some 'p' := by
  intro hp
  rw [continuesName, hp, Option.map_some, Option.getD_some, isWordChar_p] at h
  cases h

theorem holdsPlaceholder_iff :
    HoldsPlaceholder d s ↔ ∃ j, [d.marker, 'p'] <+: s.toList.drop j := by
  constructor
  · rintro ⟨before, after, h⟩
    refine ⟨before.length, after, ?_⟩
    rw [← h, List.append_assoc, List.drop_left]
  · rintro ⟨j, h⟩
    exact h.isInfix.trans (List.drop_suffix j _).isInfix

theorem not_holdsPlaceholder_append (hs : ¬ HoldsPlaceholder d s) (ht : ¬ HoldsPlaceholder d t)
    (hbreaks : continuesName t.toList = false) : ¬ HoldsPlaceholder d (s ++ t) := by
  intro h
  obtain ⟨j, h⟩ := holdsPlaceholder_iff.mp h
  rw [String.toList_append] at h
  obtain h | ⟨-, h⟩ := pair_prefix_drop_append (head?_ne_of_continuesName hbreaks) h
  · exact hs (holdsPlaceholder_iff.mpr ⟨j, h⟩)
  · exact ht (holdsPlaceholder_iff.mpr ⟨_, h⟩)

end Holds

/-! ## Templates that hold placeholders at their places only -/

namespace Template

/-- Where a placeholder of a compared field could begin, a place does. -/
def Sparse (d : Dialect) (t : Template) : Prop :=
  ∀ pos j, [d.marker, 'p'] <+: (named d t).drop j → pos + j ∈ (starts d pos t).map Prod.fst

variable {d : Dialect} {l k t : Template}

theorem Sparse.nil : Sparse d [] := by
  intro pos j h
  rw [named, List.drop_nil] at h
  cases List.prefix_nil.mp h

theorem Sparse.append (hl : Sparse d l) (hk : Sparse d k) (hb : Breaks k) : Sparse d (l ++ k) := by
  intro pos j h
  rw [named_append] at h
  rw [starts_append, List.map_append, List.mem_append]
  obtain h | ⟨hj, h⟩ :=
    pair_prefix_drop_append (head?_ne_of_continuesName (hb.continuesName_named d)) h
  · exact .inl (hl pos j h)
  · have := hk (pos + (named d l).length) _ h
    rw [show pos + (named d l).length + (j - (named d l).length) = pos + j by omega] at this
    exact .inr this

/-- A text without markers can stand in front of anything. -/
theorem Sparse.cons_text {s : String} (hs : d.marker ∉ s.toList) (ht : Sparse d t) :
    Sparse d (.text s :: t) := by
  intro pos j h
  rw [named] at h
  by_cases hj : j < s.toList.length
  · rw [List.drop_append_of_le_length hj.le, List.drop_eq_getElem_cons hj, List.cons_append,
      List.cons_prefix_cons] at h
    exact absurd (h.1 ▸ List.getElem_mem hj) hs
  · rw [List.drop_append, List.drop_eq_nil_of_le (Nat.le_of_not_lt hj), List.nil_append] at h
    rw [String.length_toList] at h hj
    have := ht (pos + s.length) _ h
    rwa [show pos + s.length + (j - s.length) = pos + j by omega] at this

theorem Sparse.text {s : String} (h : ¬ HoldsPlaceholder d s) : Sparse d [.text s] := by
  intro pos j hj
  rw [named, named, List.append_nil] at hj
  exact absurd (holdsPlaceholder_iff.mpr ⟨j, hj⟩) h

theorem Sparse.compared {field : String} (h : ¬ HoldsPlaceholder d field) :
    Sparse d [.place (.compared field)] := by
  intro pos j hj
  cases j with
  | zero => exact List.mem_singleton.mpr rfl
  | succ j =>
    rw [named, named, List.append_nil, Place.name, List.drop_succ_cons] at hj
    have hword : [d.marker, 'p'] <:+: 'p' :: field.toList :=
      hj.isInfix.trans (List.drop_suffix j _).isInfix
    obtain hpre | hin := List.infix_cons_iff.mp hword
    · exact absurd (List.cons_prefix_cons.mp hpre).1 d.marker_ne_p
    · exact absurd hin h

/-- No place of a compared field is mistaken if placeholders can begin at places only. -/
theorem unmistakable_of_sparse (ht : Sparse d t)
    (hcompared : ∀ p ∈ places t, ∃ field, p = .compared field) : Unmistakable d t := by
  intro e he start hmem _ _
  obtain ⟨field, hfield⟩ : ∃ field, e.2 = .compared field := by
    refine hcompared e.2 ?_
    rw [← map_snd_starts d t 0]
    exact List.mem_map_of_mem he
  have hstands := (prefix_of_mem_occurrences hmem).2
  rw [hfield] at hstands
  have := ht 0 start ((List.prefix_append [d.marker, 'p'] field.toList).trans hstands)
  rwa [Nat.zero_add] at this

end Template

end RecordSql
