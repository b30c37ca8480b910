import RecordSql.Proofs.Dialect.Quoting
import RecordSql.Proofs.Statement.Filling

/-!
# Searching for places

Bindings look for their places in the finished text. Where names hold any characters, a placeholder
can also stand inside a quoted identifier or inside another placeholder, and the search, which goes
from left to right and leaves out what overlaps, can come upon it first.

* `place?_eq_some_iff`: what the search for a name finds.
* `Introduced`, `place?_introduced_iff`: a placeholder behind its own quoted identifier is found
  unless its name stands whole before it, away from every place.
* `takesPlaces_iff`: when all bindings take their places.
-/

namespace RecordSql

open Text Positional Template

/-! ## Occurrences of any name -/

namespace Positional

variable {name cs : List Char} {skip pos j k : Nat}

theorem drop_sub_cons {c : Char} (h : pos + 1 ≤ k) :
    (c :: cs).drop (k - pos) = cs.drop (k - (pos + 1)) := by
  rw [show k - pos = (k - (pos + 1)) + 1 by omega, List.drop_succ_cons]

/-- The name stands at each of its occurrences. -/
theorem prefix_of_mem_occurrences (h : k ∈ occurrences name skip pos cs) :
    pos + skip ≤ k ∧ name <+: cs.drop (k - pos) := by
  induction skip, pos, cs using occurrences.induct name with
  | case1 => simp [occurrences] at h
  | case2 skip pos c cs ih =>
    obtain ⟨hle, hpre⟩ := ih h
    have hpos : pos + 1 ≤ k := by omega
    exact ⟨by omega, by rwa [drop_sub_cons hpos]⟩
  | case3 pos c cs hpre ih =>
    rw [occurrences, if_pos hpre] at h
    rcases List.mem_cons.mp h with rfl | h
    · simpa using List.isPrefixOf_iff_prefix.mp hpre
    · obtain ⟨hle, hpre⟩ := ih h
      have hpos : pos + 1 ≤ k := by omega
      exact ⟨by omega, by rwa [drop_sub_cons hpos]⟩
  | case4 pos c cs hpre ih =>
    rw [occurrences, if_neg hpre] at h
    obtain ⟨hle, hpre⟩ := ih h
    have hpos : pos + 1 ≤ k := by omega
    exact ⟨by omega, by rwa [drop_sub_cons hpos]⟩

/-- A name that stands in the text is found there, or is hidden by an occurrence that reaches into
    it. -/
theorem mem_occurrences_or_hidden (pos : Nat) (hname : name ≠ []) (h : name <+: cs.drop j)
    (hskip : skip ≤ j) :
    pos + j ∈ occurrences name skip pos cs ∨
      ∃ i ∈ occurrences name skip pos cs, i < pos + j ∧ pos + j < i + name.length := by
  induction skip, pos, cs using occurrences.induct name generalizing j with
  | case1 =>
    rw [List.drop_nil] at h
    exact absurd (List.prefix_nil.mp h) hname
  | case2 skip pos c cs ih =>
    obtain ⟨j, rfl⟩ : ∃ i, j = i + 1 := ⟨j - 1, by omega⟩
    rw [List.drop_succ_cons] at h
    have := ih h (by omega)
    rwa [show pos + 1 + j = pos + (j + 1) by omega] at this
  | case3 pos c cs hpre ih =>
    rw [occurrences, if_pos hpre]
    cases j with
    | zero => exact .inl (by simp)
    | succ j =>
      -- the occurrence found here hides what begins within it
      by_cases hj : name.length - 1 ≤ j
      · rw [List.drop_succ_cons] at h
        have := ih h hj
        rw [show pos + 1 + j = pos + (j + 1) by omega] at this
        obtain hmem | ⟨i, hi, hlt⟩ := this
        · exact .inl (List.mem_cons_of_mem pos hmem)
        · exact .inr ⟨i, List.mem_cons_of_mem pos hi, hlt⟩
      · exact .inr ⟨pos, by simp, by omega, by omega⟩
  | case4 pos c cs hpre ih =>
    rw [occurrences, if_neg hpre]
    cases j with
    | zero => exact absurd (List.isPrefixOf_iff_prefix.mpr h) hpre
    | succ j =>
      rw [List.drop_succ_cons] at h
      have := ih h (Nat.zero_le j)
      rwa [show pos + 1 + j = pos + (j + 1) by omega] at this

/-- A name whose first character does not come again cannot reach into itself, so it is found
    wherever it stands. -/
theorem mem_occurrences_of_notMem {m : Char} {w : List Char} (hm : m ∉ w)
    (h : m :: w <+: cs.drop j) : j ∈ occurrences (m :: w) 0 0 cs := by
  have hfound := mem_occurrences_or_hidden 0 (List.cons_ne_nil m w) h (Nat.zero_le j)
  rw [Nat.zero_add] at hfound
  obtain hmem | ⟨i, hi, hlt, hreach⟩ := hfound
  · exact hmem
  · obtain ⟨after, hafter⟩ := (prefix_of_mem_occurrences hi).2
    obtain ⟨k, rfl⟩ : ∃ k, j = i + (k + 1) := ⟨j - i - 1, by omega⟩
    rw [List.length_cons] at hreach
    rw [Nat.sub_zero] at hafter
    rw [← List.drop_drop, ← hafter, List.cons_append, List.drop_succ_cons,
      List.drop_append_of_le_length (by omega)] at h
    have hk : k < w.length := by omega
    rw [List.drop_eq_getElem_cons hk, List.cons_append, List.cons_prefix_cons] at h
    exact absurd (h.1 ▸ List.getElem_mem hk) hm

theorem pairwise_occurrences (name cs : List Char) (skip pos : Nat) :
    (occurrences name skip pos cs).Pairwise (· < ·) := by
  induction skip, pos, cs using occurrences.induct name with
  | case1 => exact List.Pairwise.nil
  | case2 skip pos c cs ih => exact ih
  | case3 pos c cs hpre ih =>
    rw [occurrences, if_pos hpre]
    refine List.Pairwise.cons (fun k hk => ?_) ih
    have := (prefix_of_mem_occurrences hk).1
    omega
  | case4 pos c cs hpre ih =>
    rw [occurrences, if_neg hpre]
    exact ih

/-- In a list that goes up, the first element with a property is the least one. -/
theorem find?_eq_some_iff_of_pairwise_lt {l : List Nat} (hl : l.Pairwise (· < ·)) {p : Nat → Bool} :
    l.find? p = some k ↔ k ∈ l ∧ p k = true ∧ ∀ j ∈ l, j < k → p j = false := by
  constructor
  · intro h
    obtain ⟨hk, before, after, rfl, hbefore⟩ := List.find?_eq_some_iff_append.mp h
    refine ⟨by simp, hk, fun j hj hlt => ?_⟩
    have hafter := (List.pairwise_cons.mp (List.pairwise_append.mp hl).2.1).1
    rcases List.mem_append.mp hj with hj | hj
    · simpa using hbefore j hj
    · rcases List.mem_cons.mp hj with rfl | hj
      · omega
      · have := hafter j hj
        omega
  · rintro ⟨hmem, hk, hleast⟩
    obtain ⟨before, after, rfl⟩ := List.append_of_mem hmem
    have hbefore := (List.pairwise_append.mp hl).2.2
    refine List.find?_eq_some_iff_append.mpr ⟨hk, before, after, rfl, fun j hj => ?_⟩
    simpa using hleast j (List.mem_append_left _ hj) (hbefore j hj k (by simp))

/-- The name ends where it stands: the text does not continue it there. -/
def Whole (sql name : List Char) (start : Nat) : Prop :=
  continuesName (sql.drop (start + name.length)) = false

/-- A name is found at its first whole occurrence that is not taken. -/
theorem place?_eq_some_iff {sql : List Char} (hname : name ≠ []) {taken : List Nat} :
    place? sql name taken = some k ↔
      k ∈ occurrences name 0 0 sql ∧ (k ∉ taken ∧ Whole sql name k) ∧
        ∀ j ∈ occurrences name 0 0 sql, j < k → Whole sql name j → j ∈ taken := by
  have hfree : ∀ j, (!taken.contains j && !continuesName (sql.drop (j + name.length))) = true ↔
      j ∉ taken ∧ Whole sql name j := by
    simp [Whole]
  have htaken : ∀ j, (!taken.contains j && !continuesName (sql.drop (j + name.length))) = false ↔
      (Whole sql name j → j ∈ taken) := by
    intro j
    rw [← Bool.not_eq_true, hfree, not_and', not_not]
  rw [place?, if_neg hname, find?_eq_some_iff_of_pairwise_lt (pairwise_occurrences name sql 0 0)]
  simp only [hfree, htaken]

end Positional

/-! ## Positions of places -/

namespace Template

theorem starts_append (d : Dialect) (l k : Template) (pos : Nat) :
    starts d pos (l ++ k) = starts d pos l ++ starts d (pos + (named d l).length) k := by
  induction l generalizing pos with
  | nil => rfl
  | cons piece l ih =>
    cases piece with
    | text s =>
      rw [List.cons_append, starts, ih, starts, named, List.length_append, String.length_toList,
        Nat.add_assoc]
    | place p =>
      rw [List.cons_append, starts, ih, starts, named, List.length_append, List.cons_append,
        Nat.add_assoc]

theorem lt_of_mem_starts {d : Dialect} {t : Template} {pos : Nat} {e : Nat × Place}
    (h : e ∈ starts d pos t) : e.1 < pos + (named d t).length := by
  induction t generalizing pos with
  | nil => simp [starts] at h
  | cons piece t ih =>
    cases piece with
    | text s =>
      have := ih h
      rw [named, List.length_append, String.length_toList]
      omega
    | place p =>
      rw [named, List.length_append]
      rcases List.mem_cons.mp h with rfl | h
      · have hname : 0 < (p.name d).length := Nat.succ_pos _
        show pos < _
        omega
      · have := ih h
        omega

/-- Every place stands behind its quoted field and an equality sign, and its name ends where the
    place does. -/
def Introduced (q : Quoting) (t : Template) : Prop :=
  ∀ l p r, t = l ++ .place p :: r →
    Breaks r ∧ ∃ l', l = l' ++ [.text (q.quote p.field ++ "=")]

variable {l k t : Template}

theorem Introduced.nil {q : Quoting} : Introduced q [] := by
  intro l p r h
  simp at h

theorem Introduced.cons_text {q : Quoting} (s : String) (ht : Introduced q t) :
    Introduced q (.text s :: t) := by
  intro l p r h
  obtain ⟨rfl, hplace⟩ | ⟨front, rfl, hrest⟩ := List.cons_eq_append_iff.mp h
  · cases hplace
  · obtain ⟨hafter, more, rfl⟩ := ht front p r hrest
    exact ⟨hafter, .text s :: more, rfl⟩

theorem Introduced.append {q : Quoting} (hl : Introduced q l) (hk : Introduced q k)
    (hb : Breaks k) : Introduced q (l ++ k) := by
  intro before p after h
  obtain ⟨middle, rfl, hmiddle⟩ | ⟨middle, rfl, hmiddle⟩ := List.append_eq_append_iff.mp h
  · -- the place is one of the second template
    obtain ⟨hafter, front, rfl⟩ := hk middle p after hmiddle
    exact ⟨hafter, l ++ front, (List.append_assoc ..).symm⟩
  · cases middle with
    | nil =>
      obtain ⟨-, front, hnil⟩ := hk [] p after hmiddle.symm
      simp at hnil
    | cons piece middle =>
      obtain ⟨rfl, rfl⟩ := List.cons.inj hmiddle
      obtain ⟨hafter, hfront⟩ := hl before p middle rfl
      exact ⟨hafter.append hb, hfront⟩

theorem Introduced.compared (q : Quoting) (field : String) :
    Introduced q [.text (q.quote field ++ "="), .place (.compared field)] := by
  intro l p r h
  obtain ⟨rfl, hplace⟩ | ⟨front, rfl, hrest⟩ := List.cons_eq_append_iff.mp h
  · cases hplace
  · obtain ⟨rfl, hplace⟩ | ⟨more, rfl, hnil⟩ := List.cons_eq_append_iff.mp hrest
    · cases hplace
      exact ⟨trivial, [], rfl⟩
    · simp at hnil

/-- The name of the place does not stand whole before it, but where other places are. -/
def Unmistaken (d : Dialect) (t : Template) (e : Nat × Place) : Prop :=
  ∀ start ∈ occurrences (e.2.name d) 0 0 (named d t), start < e.1 →
    Whole (named d t) (e.2.name d) start → start ∈ (starts d 0 t).map Prod.fst

/-- No place is mistaken. -/
def Unmistakable (d : Dialect) (t : Template) : Prop :=
  ∀ e ∈ starts d 0 t, Unmistaken d t e

/-- Where a name stands whole before its unmistaken place, another place begins. -/
theorem Unmistaken.mem_starts {d : Dialect} {p : Place} {start : Nat} {before after : List Char}
    (h : Unmistaken d t (start, p)) (hword : d.marker ∉ p.word)
    (hnamed : named d t = before ++ (p.name d ++ after)) (hafter : continuesName after = false)
    (hlt : before.length < start) : before.length ∈ (starts d 0 t).map Prod.fst := by
  have hstands : p.name d <+: (named d t).drop before.length := by
    rw [hnamed, List.drop_left]
    exact List.prefix_append _ _
  have hwhole : Whole (named d t) (p.name d) before.length := by
    rw [Whole, hnamed, ← List.drop_drop, List.drop_left, List.drop_left]
    exact hafter
  exact h before.length (mem_occurrences_of_notMem hword hstands) hlt hwhole

end Template

/-! ## Overlapping occurrences -/

section Overlap

variable {closing : Char} {field name : List Char}

/-- A name that ends as a field does, and begins again behind a doubled end of that field, its
    closing quote and an equality sign, goes on there with one of these. The characters that come
    round are the same on both sides, so apart from closing quotes only the equality sign is
    left. -/
theorem next_eq_of_overlap {b again rest : List Char} {next : Char} (hclosing : closing ≠ '=')
    (hb : b <:+ Quoting.double closing field) (hfield : field <:+ name)
    (hname : name = b ++ closing :: '=' :: again) (hagain : name = again ++ next :: rest) :
    next = closing ∨ next = '=' := by
  by_cases hnext : next = closing
  · exact .inl hnext
  right
  have hround : (next :: rest).Perm (b ++ [closing, '=']) := by
    have hboth : again ++ next :: rest = (b ++ [closing, '=']) ++ again := by
      rw [← hagain, hname]
      simp
    exact (List.perm_append_left_iff again).mp (hboth ▸ List.perm_append_comm)
  have hkept : (next :: rest.filter (· ≠ closing)).Perm (b.filter (· ≠ closing) ++ ['=']) := by
    simpa [hnext, hclosing.symm] using hround.filter (· ≠ closing)
  -- both are ends of the name without its closing quotes, and one is longer by one character
  have hends : b.filter (· ≠ closing) <:+ next :: rest.filter (· ≠ closing) := by
    have hshort : b.filter (· ≠ closing) <:+ name.filter (· ≠ closing) :=
      ((Quoting.filter_double closing field) ▸ hb.filter _).trans (hfield.filter _)
    have hlong : next :: rest.filter (· ≠ closing) <:+ name.filter (· ≠ closing) := by
      rw [hagain, List.filter_append, List.filter_cons_of_pos (by simpa using hnext)]
      exact List.suffix_append _ _
    refine List.suffix_of_suffix_length_le hshort hlong ?_
    rw [hkept.length_eq, List.length_append]
    exact Nat.le_add_right _ _
  have hrest : b.filter (· ≠ closing) = rest.filter (· ≠ closing) := by
    have hlength := hkept.length_eq
    rw [List.length_cons, List.length_append, List.length_singleton] at hlength
    rcases List.suffix_cons_iff.mp hends with heq | hends
    · rw [heq, List.length_cons] at hlength
      omega
    · exact hends.eq_of_length (by omega)
  rw [hrest] at hkept
  have hcons := hkept.trans (List.perm_append_singleton '=' _)
  exact List.singleton_perm_singleton.mp
    ((List.perm_append_right_iff (rest.filter (· ≠ closing))).mp hcons)

/-- A name that begins in the doubled end of its field, and reaches to where it begins again, ends
    in front of a closing quote or an equality sign. -/
theorem continuesName_of_overlap {b after : List Char} (hclosing : closing ≠ '=')
    (hword : isWordChar closing = false) (hb : b <:+ Quoting.double closing field)
    (hfield : field <:+ name) (hstands : name <+: b ++ [closing, '='] ++ (name ++ after))
    (hreach : b.length + 2 < name.length) :
    continuesName ((b ++ [closing, '='] ++ (name ++ after)).drop name.length) = false := by
  obtain ⟨again, hagain⟩ : b ++ [closing, '='] <+: name :=
    List.prefix_of_prefix_length_le (List.prefix_append _ _) hstands (by simp; omega)
  have hlength : name.length = (b ++ [closing, '=']).length + again.length := by
    rw [← hagain, List.length_append]
  have hprefix : again <+: name := by
    have hstands' : b ++ [closing, '='] ++ again <+: b ++ [closing, '='] ++ (name ++ after) := by
      rwa [hagain]
    exact List.prefix_of_prefix_length_le ((List.prefix_append_right_inj _).mp hstands')
      (List.prefix_append _ _) (by omega)
  obtain ⟨more, hmore⟩ := hprefix
  rw [hlength, List.drop_length_add_append, ← hmore, List.append_assoc, List.drop_left]
  cases more with
  | nil => simp [← hmore] at hlength
  | cons next rest =>
    have hname : name = b ++ closing :: '=' :: again := by simp [← hagain]
    have hnext : isWordChar next = false := by
      rcases next_eq_of_overlap hclosing hb hfield hname hmore.symm with rfl | rfl
      · exact hword
      · rw [isWordChar_ascii (by decide)]
        decide
    exact hnext

/-- A name that stands behind its quoted field and an equality sign, and that also stands further in
    front and reaches to its place, stands there whole and between the quotes. -/
theorem whole_of_overlap {opening : Char} {before after sql : List Char} {k : Nat}
    (hclosing : closing ≠ '=') (hword : isWordChar closing = false) (hfield : field <:+ name)
    (hlength : name.length ≤ field.length + 2) (hname : name.head? ≠ some '=')
    (hsql : sql = (before ++ [opening]) ++
      (Quoting.double closing field ++ ([closing, '='] ++ (name ++ after))))
    (hstands : name <+: sql.drop k)
    (hk : k < before.length + (Quoting.double closing field).length + 3)
    (hreach : before.length + (Quoting.double closing field).length + 3 < k + name.length) :
    before.length < k ∧ Whole sql name k := by
  have hdouble := Quoting.length_le_length_double closing field
  have hbefore : (before ++ [opening]).length = before.length + 1 := List.length_append
  obtain ⟨i, rfl⟩ : ∃ i, k = (before ++ [opening]).length + i := ⟨k - (before.length + 1), by omega⟩
  rw [hbefore] at hk hreach
  refine ⟨by omega, ?_⟩
  rw [Whole, Nat.add_assoc, hsql, List.drop_length_add_append, ← List.drop_drop]
  rw [hsql, List.drop_length_add_append] at hstands
  by_cases hi : i = (Quoting.double closing field).length + 1
  · -- the name does not begin with the equality sign
    rw [hi, List.drop_length_add_append] at hstands
    cases name with
    | nil => simp at hreach; omega
    | cons ch name =>
      obtain ⟨rfl, -⟩ := List.cons_prefix_cons.mp hstands
      exact absurd rfl hname
  · have hle : i ≤ (Quoting.double closing field).length := by omega
    have hlength' : ((Quoting.double closing field).drop i).length + i =
        (Quoting.double closing field).length := by
      rw [List.length_drop]
      omega
    rw [List.drop_append_of_le_length hle, ← List.append_assoc] at hstands ⊢
    exact continuesName_of_overlap hclosing hword (List.drop_suffix i _) hfield hstands (by omega)

end Overlap

/-! ## Places behind quoted fields -/

section Introduced

variable {q : Quoting} {opening closing : Char} (hq : q.quotes? = some (opening, closing))
  {d : Dialect} {l r : Template} {p : Place}

theorem Place.field_suffix_name (d : Dialect) (p : Place) : p.field.toList <:+ p.name d := by
  cases p with
  | assigned field => exact List.suffix_cons _ _
  | compared field => exact (List.suffix_cons _ _).trans (List.suffix_cons _ _)

theorem Place.length_name_le (d : Dialect) (p : Place) :
    (p.name d).length ≤ p.field.toList.length + 2 := by
  cases p <;> simp [Place.name, Place.word, Place.field]

theorem Place.head?_name (d : Dialect) (p : Place) : (p.name d).head? ≠ some '=' := by
  cases d <;> simp [Place.name, Dialect.marker]

include hq in
/-- An occurrence that reaches into a place behind its quoted field is a whole one, and away from
    every place. -/
theorem whole_of_reaching (ht : Introduced q (l ++ .place p :: r)) {k : Nat}
    (hmem : k ∈ occurrences (p.name d) 0 0 (named d (l ++ .place p :: r)))
    (hk : k < (named d l).length) (hreach : (named d l).length < k + (p.name d).length) :
    Whole (named d (l ++ .place p :: r)) (p.name d) k ∧ k ∉ (starts d 0 l).map Prod.fst := by
  obtain ⟨-, l, rfl⟩ := ht l p r rfl
  have hstarts : starts d 0 (l ++ [.text (q.quote p.field ++ "=")]) = starts d 0 l := by
    simp [starts_append, starts]
  have hlength : (named d (l ++ [.text (q.quote p.field ++ "=")])).length =
      (named d l).length + (Quoting.double closing p.field.toList).length + 3 := by
    simp [named_append, named, Quoting.toList_quote hq]
    omega
  have hsql : named d (l ++ [.text (q.quote p.field ++ "=")] ++ .place p :: r) =
      (named d l ++ [opening]) ++
        (Quoting.double closing p.field.toList ++ ([closing, '='] ++ (p.name d ++ named d r))) := by
    simp [named_append, named, Quoting.toList_quote hq]
  rw [hlength] at hk hreach
  rw [hstarts]
  obtain ⟨hafter, hwhole⟩ := whole_of_overlap (Quoting.quotes_ne hq).2.2.2
    (Quoting.isWordChar_quotes hq).2 (p.field_suffix_name d) (p.length_name_le d) (p.head?_name d)
    hsql (prefix_of_mem_occurrences hmem).2 hk hreach
  refine ⟨hwhole, fun hstart => ?_⟩
  obtain ⟨e, he, rfl⟩ := List.mem_map.mp hstart
  have := lt_of_mem_starts he
  omega

include hq in
/-- A place behind its quoted field is found, once the places before it are taken, unless its name
    is mistaken. -/
theorem place?_introduced_iff (ht : Introduced q (l ++ .place p :: r)) {taken : List Nat}
    (htaken : ∀ k, k ∈ taken ↔ k ∈ (starts d 0 l).map Prod.fst) :
    place? (named d (l ++ .place p :: r)) (p.name d) taken = some (named d l).length ↔
      Unmistaken d (l ++ .place p :: r) ((named d l).length, p) := by
  have hname : p.name d ≠ [] := List.cons_ne_nil _ _
  have hsql : named d (l ++ .place p :: r) = named d l ++ (p.name d ++ named d r) :=
    named_append d l _
  have hearlier : ∀ k < (named d l).length,
      k ∈ (starts d 0 (l ++ .place p :: r)).map Prod.fst ↔ k ∈ (starts d 0 l).map Prod.fst := by
    intro k hk
    rw [starts_append, List.map_append, List.mem_append, or_iff_left]
    intro hlater
    obtain ⟨e, he, rfl⟩ := List.mem_map.mp hlater
    have := le_of_mem_starts he
    omega
  rw [place?_eq_some_iff hname]
  constructor
  · rintro ⟨-, -, hfirst⟩ start hmem hlt hwhole
    exact (hearlier start hlt).mpr ((htaken start).mp (hfirst start hmem hlt hwhole))
  · intro hun
    have hfound : (named d l).length ∈
        occurrences (p.name d) 0 0 (named d (l ++ .place p :: r)) := by
      have hstands : p.name d <+: (named d (l ++ .place p :: r)).drop (named d l).length := by
        rw [hsql, List.drop_left]
        exact List.prefix_append _ _
      have := mem_occurrences_or_hidden 0 hname hstands (Nat.zero_le _)
      rw [Nat.zero_add] at this
      obtain hfound | ⟨k, hmem, hlt, hreach⟩ := this
      · exact hfound
      · obtain ⟨hwhole, hstart⟩ := whole_of_reaching hq ht hmem hlt hreach
        exact absurd ((hearlier k hlt).mp (hun k hmem hlt hwhole)) hstart
    refine ⟨hfound, ⟨?_, ?_⟩, fun k hmem hlt hwhole => ?_⟩
    · rw [htaken]
      intro hstart
      obtain ⟨e, he, hlength⟩ := List.mem_map.mp hstart
      have := lt_of_mem_starts he
      omega
    · rw [Whole, hsql, ← List.drop_drop, List.drop_left, List.drop_left]
      exact (ht l p r rfl).1.continuesName_named d
    · exact (htaken k).mpr ((hearlier k hlt).mp (hun k hmem hlt hwhole))

/-! ## All places -/

theorem length_claims_le (sql : List Char) (taken : List Nat) (bindings : List Binding) :
    (claims sql taken bindings).length ≤ bindings.length := by
  induction bindings generalizing taken with
  | nil => exact Nat.le_refl 0
  | cons b rest ih =>
    rw [claims]
    split
    · exact Nat.succ_le_succ (ih _)
    · exact (ih taken).trans (Nat.le_succ _)

theorem length_claimsOf_starts (d : Dialect) (t : Template) (pos : Nat) (meant : Place → Value) :
    (claimsOf d (starts d pos t) (t.places.map meant)).length = t.places.length := by
  rw [claimsOf, List.length_zipWith, List.length_map, ← map_snd_starts d t pos, List.length_map,
    Nat.min_self]

include hq in
/-- Bindings in the order of the places take them, once the places before are taken, just if none of
    their names is mistaken. The induction is on what is left of the template. -/
theorem claims_introduced_iff (ht : Introduced q (l ++ r)) (meant : Place → Value)
    {taken : List Nat} (htaken : ∀ k, k ∈ taken ↔ k ∈ (starts d 0 l).map Prod.fst) :
    claims (named d (l ++ r)) taken (r.places.map fun p => p.bind d (meant p)) =
        claimsOf d (starts d (named d l).length r) (r.places.map meant) ↔
      ∀ e ∈ starts d (named d l).length r, Unmistaken d (l ++ r) e := by
  induction r generalizing l taken with
  | nil => simp [places, claims, starts, claimsOf]
  | cons piece r ih =>
    cases piece with
    | text s =>
      have hstarts : starts d 0 (l ++ [.text s]) = starts d 0 l := by
        simp [starts_append, starts]
      have hlength : (named d (l ++ [.text s])).length = (named d l).length + s.length := by
        simp [named_append, named, String.length_toList]
      rw [List.append_cons] at ht ⊢
      have := ih ht (hstarts ▸ htaken)
      rwa [hlength] at this
    | place p =>
      have hfound := place?_introduced_iff hq ht htaken
      have hlength : (named d (l ++ [.place p])).length =
          (named d l).length + (p.name d).length := by
        simp [named_append, named]
      have htaken' : ∀ k, k ∈ (named d l).length :: taken ↔
          k ∈ (starts d 0 (l ++ [.place p])).map Prod.fst := by
        simp [starts_append, starts, htaken, or_comm]
      rw [places, List.map_cons, List.map_cons, starts, claims, Place.toList_name_bind,
        List.forall_mem_cons, ← hfound, claimsOf, List.zipWith_cons_cons, ← claimsOf]
      rw [List.append_cons] at ht ⊢
      have hrest := ih ht htaken'
      rw [hlength] at hrest
      cases place? (named d (l ++ [.place p] ++ r)) (p.name d) taken with
      | none =>
        -- a binding without a place makes the claims too few
        refine ⟨fun h => ?_, fun h => by simp at h⟩
        have hle := length_claims_le (named d (l ++ [.place p] ++ r)) taken
          ((places r).map fun p => p.bind d (meant p))
        have heq := congrArg List.length h
        rw [List.length_cons, length_claimsOf_starts] at heq
        rw [List.length_map] at hle
        exact absurd (heq.symm.trans_le hle) (by omega)
      | some k =>
        by_cases hk : k = (named d l).length
        · subst hk
          simpa [Place.bind, Place.toList_name_bind] using hrest
        · simp [hk]

end Introduced

/-! ## Statements -/

/-- Each binding claims a place of the template, the first binding the first place and so on. -/
def Statement.TakesPlaces (s : Statement) (d : Dialect) (t : Template) : Prop :=
  claims s.sql.toList [] s.bindings = claimsOf d (starts d 0 t) (s.bindings.map Binding.value)

section Statements

variable {d : Dialect} {t : Template} {s : Statement}

/-- The bindings of a statement take their places just if none of them is mistaken. -/
theorem takesPlaces_iff {q : Quoting} (hq : q ≠ .bare) (ht : Introduced q t)
    (hsql : s.sql.toList = named d t) {meant : Place → Value}
    (hb : s.bindings = t.places.map fun p => p.bind d (meant p)) :
    s.TakesPlaces d t ↔ Unmistakable d t := by
  obtain ⟨opening, closing, hquotes⟩ := Quoting.exists_quotes hq
  have hvalues : s.bindings.map Binding.value = t.places.map meant := by
    rw [hb, List.map_map]
    rfl
  rw [Statement.TakesPlaces, hsql, hvalues, hb]
  exact claims_introduced_iff (l := []) hquotes ht meant (by simp [starts])

/-- A statement whose bindings take their places has a positional form, with a marker for every
    place and the values of the bindings in their order. -/
theorem positional?_of_takesPlaces (hsql : s.sql.toList = named d t)
    (hlength : s.bindings.length = t.places.length) (h : s.TakesPlaces d t) (style : MarkerStyle) :
    s.positional? style =
      some ⟨String.ofList (positional style 0 t), s.bindings.map Binding.value⟩ :=
  positional?_of_claims hsql (by rw [List.length_map, hlength]) (List.Perm.of_eq h) style

end Statements

end RecordSql
