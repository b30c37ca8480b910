import Mathlib.Data.List.Forall2
import RecordSql.Proofs.Compiler.Readability
import RecordSql.Proofs.Value.Literals

/-!
# Readability of literal conditions

Literals are written without escapes, next to quoted fields. As long as each literal shows where it
ends, the clause tells its conditions one by one, whatever separators, comparisons or quotes the
fields and texts imitate.

* `readable_literal`: a literal can be read if a blank or nothing follows it.
* `Compiler.readable_comparison`: so can a condition.
* `conditions_of_text`: what the text of a clause tells.
-/

namespace RecordSql

/-! ## Literals in front of a text -/

/-- A text up to the first of some characters is found again, if one of them or nothing follows. -/
theorem append_inj_of_head? (isEnd : Char → Prop) {cs cs' rest rest' : List Char}
    (hcs : ∀ ch ∈ cs, ¬ isEnd ch) (hcs' : ∀ ch ∈ cs', ¬ isEnd ch)
    (hrest : ∀ ch ∈ rest.head?, isEnd ch) (hrest' : ∀ ch ∈ rest'.head?, isEnd ch)
    (heq : cs ++ rest = cs' ++ rest') : cs = cs' ∧ rest = rest' := by
  induction cs generalizing cs' with
  | nil =>
    cases cs' with
    | nil => exact ⟨rfl, heq⟩
    | cons ch' cs' =>
      rw [List.nil_append] at heq
      exact absurd (hrest ch' (heq ▸ rfl)) (hcs' ch' List.mem_cons_self)
  | cons ch cs ih =>
    cases cs' with
    | nil =>
      rw [List.nil_append] at heq
      exact absurd (hrest' ch (heq ▸ rfl)) (hcs ch List.mem_cons_self)
    | cons ch' cs' =>
      obtain ⟨rfl, htail⟩ := List.cons.inj heq
      obtain ⟨rfl, hend⟩ :=
        ih (List.forall_mem_cons.mp hcs).2 (List.forall_mem_cons.mp hcs').2 htail
      exact ⟨rfl, hend⟩

/-- A plain text that pauses is none that begins with a quote. -/
theorem plain_append_ne {cs rest cs' : List Char} (h : IsPlain cs) (hrest : Pauses rest) :
    cs ++ rest ≠ '\x27' :: cs' := by
  intro heq
  cases cs with
  | nil =>
    rw [List.nil_append] at heq
    exact absurd (hrest '\x27' (heq ▸ rfl)) (by decide)
  | cons ch cs => exact (h ch List.mem_cons_self).2 (List.cons.inj heq).1

theorem readable_literal : Readable (fun l : { cs // IsLiteral cs } => l.val) Pauses := by
  rintro ⟨cs, hcs⟩ ⟨cs', hcs'⟩ rest rest' hrest hrest' heq
  rw [Subtype.mk.injEq]
  -- the first character says of which form a literal is; a plain one ends before the first blank,
  -- and one between quotes with the second quote
  cases hcs with
  | plain h =>
    cases hcs' with
    | plain h' =>
      exact append_inj_of_head? (· = ' ') (fun ch hch => (h ch hch).1)
        (fun ch hch => (h' ch hch).1) hrest hrest' heq
    | enclosed h' => exact absurd heq (plain_append_ne h hrest)
  | enclosed h =>
    cases hcs' with
    | plain h' => exact absurd heq.symm (plain_append_ne h' hrest')
    | enclosed h' =>
      simp only [List.cons_append, List.append_assoc, List.cons.injEq, true_and, List.nil_append]
        at heq
      obtain ⟨rfl, hend⟩ := append_inj_of_head? (· = '\x27')
        (fun ch hch heq => h (heq ▸ hch)) (fun ch hch heq => h' (heq ▸ hch))
        (by simp) (by simp) heq
      exact ⟨rfl, (List.cons.inj hend).2⟩

/-! ## Conditions -/

/-- A condition whose literal shows where it ends. -/
structure Comparison where
  field : String
  isNull : Bool
  literal : String
  isLiteral : IsLiteral literal.toList

namespace Comparison

/-- What stands between a field and a literal. -/
def operator (isNull : Bool) : String :=
  if isNull then " is " else "="

/-- The text of a condition. -/
def text (c : Compiler) (k : Comparison) : String :=
  c.quote k.field ++ operator k.isNull ++ k.literal

/-- The condition that an entry is written as. -/
def ofEntry (e : String × Value) (h : e.2.IsDelimited) : Comparison where
  field := e.1
  isNull := e.2.isNullLiteral
  literal := e.2.literal
  isLiteral := Value.isLiteral_literal h

theorem text_ofEntry (c : Compiler) (e : String × Value) (h : e.2.IsDelimited) :
    (ofEntry e h).text c = c.literalCondition e.1 e.2 := by
  unfold text operator ofEntry Compiler.literalCondition
  dsimp only
  split <;> rfl

theorem text_ne_empty (c : Compiler) (k : Comparison) : k.text c ≠ "" := by
  unfold text operator
  split <;> simp

/-- The operators begin with different characters. -/
theorem operator_append_inj {isNull isNull' : Bool} {cs cs' : List Char}
    (h : (operator isNull).toList ++ cs = (operator isNull').toList ++ cs') :
    isNull = isNull' ∧ cs = cs' := by
  revert h
  cases isNull <;> cases isNull' <;> simp [operator]

end Comparison

namespace Compiler

theorem head?_operator_append_ne {q : Quoting} {opening closing : Char}
    (hq : q.quotes? = some (opening, closing)) (isNull : Bool) (cs : List Char) :
    ((Comparison.operator isNull).toList ++ cs).head? ≠ some closing := by
  obtain ⟨-, hblank, -, hequals⟩ := Quoting.quotes_ne hq
  cases isNull with
  | false => exact fun h => hequals (Option.some.inj h).symm
  | true => exact fun h => hblank (Option.some.inj h).symm

theorem readable_comparison {c : Compiler} {opening closing : Char}
    (hc : c.quoting.quotes? = some (opening, closing)) :
    Readable (fun k : Comparison => (k.text c).toList) Pauses := by
  rintro ⟨field, isNull, literal, hliteral⟩ ⟨field', isNull', literal', hliteral'⟩ rest rest' hrest
    hrest' heq
  simp only [Comparison.text, String.toList_append, List.append_assoc] at heq
  obtain ⟨rfl, hbehind⟩ := readable_quote hc (head?_operator_append_ne hc _ _)
    (head?_operator_append_ne hc _ _) heq
  obtain ⟨rfl, hliterals⟩ := Comparison.operator_append_inj hbehind
  obtain ⟨hsame, hend⟩ := @readable_literal ⟨_, hliteral⟩ ⟨_, hliteral'⟩ _ _ hrest hrest' hliterals
  obtain rfl := String.toList_inj.mp (Subtype.mk.inj hsame)
  exact ⟨rfl, hend⟩

theorem whereLiterals_eq (c : Compiler) {f : Filters} (hf : ∀ e ∈ f.entries, e.2.IsDelimited) :
    c.whereLiterals f =
      whereClause ((f.entries.pmap Comparison.ofEntry hf).map (Comparison.text c)) := by
  rw [whereLiterals, List.map_pmap, ← List.pmap_eq_map hf]
  exact congrArg whereClause
    (List.pmap_congr_left _ fun e _ h _ => (Comparison.text_ofEntry c e h).symm)

end Compiler

/-! ## Clauses -/

/-- Two entries are written as conditions with the same field, the same operator and the same
    literal. -/
def SameCondition (e e' : String × Value) : Prop :=
  e.1 = e'.1 ∧ e.2.isNullLiteral = e'.2.isNullLiteral ∧ e.2.literal = e'.2.literal

instance (e e' : String × Value) : Decidable (SameCondition e e') :=
  inferInstanceAs (Decidable (_ ∧ _ ∧ _))

theorem Comparison.ofEntry_inj {e e' : String × Value} {h : e.2.IsDelimited}
    {h' : e'.2.IsDelimited} : ofEntry e h = ofEntry e' h' ↔ SameCondition e e' := by
  rw [ofEntry, ofEntry, Comparison.mk.injEq, SameCondition]

theorem Comparison.pmap_ofEntry_inj {es es' : List (String × Value)}
    (h : ∀ e ∈ es, e.2.IsDelimited) (h' : ∀ e ∈ es', e.2.IsDelimited) :
    es.pmap ofEntry h = es'.pmap ofEntry h' ↔ List.Forall₂ SameCondition es es' := by
  induction es generalizing es' with
  | nil => cases es' <;> simp
  | cons e es ih =>
    cases es' with
    | nil => simp
    | cons e' es' =>
      rw [List.pmap_cons, List.pmap_cons, List.cons.injEq, ofEntry_inj, ih, List.forall₂_cons]

/-- **One way to read literal conditions.** In every dialect and with every quoting but that of bare
    identifiers, for fields of any names, lists of any length, and values of known kinds whose texts
    have no quotes in them: two lists of filters are written as one clause just if they have the
    same length and, at each place, the same field, the same operator and the same literal. -/
theorem conditions_of_text (c : Compiler) (hc : c.quoting ≠ .bare) {f g : Filters}
    (hf : ∀ e ∈ f.entries, e.2.IsDelimited) (hg : ∀ e ∈ g.entries, e.2.IsDelimited) :
    c.whereLiterals f = c.whereLiterals g ↔ List.Forall₂ SameCondition f.entries g.entries := by
  obtain ⟨opening, closing, hquotes⟩ := Quoting.exists_quotes hc
  have hinjective := Compiler.whereClause_injective (Compiler.readable_comparison hquotes)
    (Comparison.text_ne_empty c)
  rw [c.whereLiterals_eq hf, c.whereLiterals_eq hg, ← Comparison.pmap_ofEntry_inj hf hg,
    ← String.toList_inj]
  exact hinjective.eq_iff

/-- A field and a text that imitate a second condition are one condition still, and different values
    with one literal are one condition too. -/
theorem conditions_of_text_brackets :
    let c : Compiler := { quoting := .brackets }
    let one : Filters := .ofList [("a]=1 AND [b", .text "x AND [b] is null")]
    let two : Filters := .ofList [("a", .bool true), ("b", .null)]
    let three : Filters := .ofList [("a", .enumeration 1), ("b", .text "")]
    (∀ f ∈ [one, two, three], ∀ e ∈ f.entries, e.2.IsDelimited) ∧
      c.whereLiterals one ≠ c.whereLiterals two ∧ c.whereLiterals two = c.whereLiterals three := by
  intro c one two three
  have hvalues : ∀ f ∈ [one, two, three], ∀ e ∈ f.entries, e.2.IsDelimited := by decide
  have hone := conditions_of_text c (by decide) (hvalues one (by simp)) (hvalues two (by simp))
  have htwo := conditions_of_text c (by decide) (hvalues two (by simp)) (hvalues three (by simp))
  refine ⟨hvalues, fun h => ?_, htwo.mpr ?_⟩
  · cases (hone.mp h).length_eq
  · exact .cons (by decide) (.cons (by decide) .nil)

end RecordSql
