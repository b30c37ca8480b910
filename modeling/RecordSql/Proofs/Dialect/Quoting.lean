import Mathlib.Logic.Function.Basic
import RecordSql.Dialect.Basic
import RecordSql.Text.WordChar

/-!
# Reading quoted identifiers

A reader for identifiers between quotes, which takes a doubled closing quote for one character of
the identifier. It finds the end of an identifier in any text that does not go on with another
closing quote, so a quoted identifier can stand in front of anything else.

* `double_append`, `filter_double`, `pair_infix_of_double`: what doubling does to a text.
* `read?_quote`: the reader gives the identifier back, and the text behind it.
* `quote_append_inj`, `quote_injective`: quoted identifiers are told apart.
-/

namespace RecordSql.Quoting

open Text

/-! ## The reader -/

/-- Reads up to the closing quote, and gives the characters of the identifier and the text behind
    the quote. -/
def undouble? (closing : Char) : List Char → Option (List Char × List Char)
  | [] => none
  | [c] => if c = closing then some ([], []) else none
  | c :: e :: rest =>
    if c = closing then
      if e = closing then (undouble? closing rest).map fun r => (closing :: r.1, r.2)
      else some ([], e :: rest)
    else (undouble? closing (e :: rest)).map fun r => (c :: r.1, r.2)

/-- Reads a quoted identifier at the front of a text, and gives it and the text behind it. Where
    identifiers are bare there is nothing to read them by. -/
def read? (q : Quoting) (cs : List Char) : Option (String × List Char) := do
  let (opening, closing) ← q.quotes?
  match cs with
  | [] => none
  | c :: rest =>
    if c = opening then (undouble? closing rest).map fun r => (String.ofList r.1, r.2) else none

/-! ## Doubled quotes -/

theorem double_cons (closing ch : Char) (cs : List Char) :
    double closing (ch :: cs) = (if ch = closing then [ch, ch] else [ch]) ++ double closing cs :=
  List.flatMap_cons

theorem double_append (closing : Char) (cs ds : List Char) :
    double closing (cs ++ ds) = double closing cs ++ double closing ds :=
  List.flatMap_append

theorem double_eq_self {closing : Char} {cs : List Char} (h : closing ∉ cs) :
    double closing cs = cs := by
  induction cs with
  | nil => rfl
  | cons ch cs ih =>
    simp only [List.mem_cons, not_or] at h
    rw [double_cons, if_neg (Ne.symm h.1), ih h.2]
    rfl

theorem head?_double (closing : Char) (cs : List Char) :
    (double closing cs).head? = cs.head? := by
  cases cs with
  | nil => rfl
  | cons ch cs =>
    rw [double_cons]
    split <;> rfl

theorem mem_double {closing ch : Char} {cs : List Char} :
    ch ∈ double closing cs ↔ ch ∈ cs := by
  simp only [double, List.mem_flatMap]
  constructor
  · rintro ⟨c, hc, hch⟩
    have hsame : ch = c := by split at hch <;> simpa using hch
    rwa [hsame]
  · intro h
    refine ⟨ch, h, ?_⟩
    split <;> simp

/-- Doubling a quote puts no two other characters next to each other. -/
theorem pair_infix_of_double {a b closing : Char} (ha : a ≠ closing) {cs : List Char}
    (h : [a, b] <:+: double closing cs) : [a, b] <:+: cs := by
  induction cs with
  | nil => exact h
  | cons ch cs ih =>
    rw [double_cons] at h
    rw [List.infix_cons_iff]
    by_cases hch : ch = closing
    · rw [if_pos hch, List.cons_append, List.singleton_append, List.infix_cons_iff,
        List.infix_cons_iff, hch] at h
      obtain h | h | h := h
      · exact absurd (List.cons_prefix_cons.mp h).1 ha
      · exact absurd (List.cons_prefix_cons.mp h).1 ha
      · exact .inr (ih h)
    · rw [if_neg hch, List.singleton_append, List.infix_cons_iff, List.cons_prefix_cons,
        List.singleton_prefix_iff_head?_eq_some, head?_double,
        ← List.singleton_prefix_iff_head?_eq_some, ← List.cons_prefix_cons] at h
      exact h.imp id ih

theorem filter_double (closing : Char) (cs : List Char) :
    (double closing cs).filter (· ≠ closing) = cs.filter (· ≠ closing) := by
  induction cs with
  | nil => rfl
  | cons ch cs ih =>
    rw [double_cons, List.filter_append, ih]
    by_cases h : ch = closing <;> simp [h]

theorem length_le_length_double (closing : Char) (cs : List Char) :
    cs.length ≤ (double closing cs).length := by
  induction cs with
  | nil => exact Nat.le_refl 0
  | cons ch cs ih =>
    rw [double_cons, List.length_append, List.length_cons]
    split
    · rw [List.length_cons, List.length_singleton]
      omega
    · rw [List.length_singleton]
      omega

theorem undouble?_cons_of_ne {closing c : Char} (h : c ≠ closing) (cs : List Char) :
    undouble? closing (c :: cs) = (undouble? closing cs).map fun r => (c :: r.1, r.2) := by
  cases cs with
  | nil => simp [undouble?, h]
  | cons e rest => rw [undouble?, if_neg h]

/-- Reading undoes doubling, whatever stands behind the closing quote but another one. -/
theorem undouble?_double {closing : Char} {rest : List Char} (h : rest.head? ≠ some closing)
    (cs : List Char) :
    undouble? closing (double closing cs ++ closing :: rest) = some (cs, rest) := by
  induction cs with
  | nil =>
    show undouble? closing (closing :: rest) = some ([], rest)
    cases rest with
    | nil => rw [undouble?, if_pos rfl]
    | cons e rest =>
      have he : e ≠ closing := fun heq => h (by rw [heq, List.head?_cons])
      rw [undouble?, if_pos rfl, if_neg he]
  | cons ch cs ih =>
    rw [double_cons, List.append_assoc]
    by_cases hch : ch = closing
    · subst hch
      rw [if_pos rfl, List.cons_append, List.singleton_append, undouble?, if_pos rfl, if_pos rfl,
        ih]
      rfl
    · rw [if_neg hch, List.singleton_append, undouble?_cons_of_ne hch, ih]
      rfl

/-! ## Quoted identifiers -/

theorem exists_quotes {q : Quoting} (h : q ≠ .bare) :
    ∃ opening closing, q.quotes? = some (opening, closing) := by
  cases q with
  | bare => contradiction
  | _ => exact ⟨_, _, rfl⟩

theorem quotes_ne {q : Quoting} {opening closing : Char}
    (hq : q.quotes? = some (opening, closing)) :
    opening ≠ ' ' ∧ closing ≠ ' ' ∧ closing ≠ ',' ∧ closing ≠ '=' := by
  cases q with
  | bare => cases hq
  | _ =>
    cases hq
    decide

theorem isWordChar_quotes {q : Quoting} {opening closing : Char}
    (hq : q.quotes? = some (opening, closing)) :
    isWordChar opening = false ∧ isWordChar closing = false := by
  cases q with
  | bare => cases hq
  | _ =>
    cases hq
    exact ⟨isWordChar_ascii (by decide), isWordChar_ascii (by decide)⟩

section Quoted

variable {q : Quoting} {opening closing : Char} (hq : q.quotes? = some (opening, closing))

include hq

theorem toList_quote (identifier : String) :
    (q.quote identifier).toList = opening :: (double closing identifier.toList ++ [closing]) := by
  rw [quote, hq]
  exact String.toList_ofList

/-- The reader gives a quoted identifier back, and the text behind it. -/
theorem read?_quote {rest : List Char} (h : rest.head? ≠ some closing) (identifier : String) :
    q.read? ((q.quote identifier).toList ++ rest) = some (identifier, rest) := by
  rw [toList_quote hq, read?, hq, List.cons_append, List.append_assoc, List.singleton_append]
  show (if opening = opening then _ else none) = _
  rw [if_pos rfl, undouble?_double h, Option.map_some, String.ofList_toList]

theorem quote_append_inj {a b : String} {rest rest' : List Char} (h : rest.head? ≠ some closing)
    (h' : rest'.head? ≠ some closing)
    (heq : (q.quote a).toList ++ rest = (q.quote b).toList ++ rest') : a = b ∧ rest = rest' := by
  have hread := congrArg q.read? heq
  rw [read?_quote hq h, read?_quote hq h', Option.some_inj, Prod.mk.injEq] at hread
  exact hread

end Quoted

theorem quote_injective (q : Quoting) : Function.Injective q.quote := by
  intro a b h
  cases hq : q.quotes? with
  | none =>
    rw [quote, quote, hq] at h
    exact h
  | some quotes =>
    have hnil : ([] : List Char).head? ≠ some quotes.2 := nofun
    exact (quote_append_inj hq hnil hnil (by rw [h])).1

end RecordSql.Quoting
