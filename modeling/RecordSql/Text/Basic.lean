/-!
# Texts

What names and lines are made of: letters without regard to their case, blanks, the parts of a text
around separators, and texts filled up to the width of a column.

* `equalFold_iff`: texts are equal up to case just if their lowered forms are equal.
* `occurs_iff`: a word occurs exactly if it is an infix.
-/

namespace RecordSql.Text

/-! ## Letters

Names of dialects, drivers, URL schemes and columns are compared without regard to the case of the
letters `A`-`Z`. No other character has a case here. -/

/-- The text with the capitals `A`-`Z` lowered and every other character kept. -/
def lower (s : String) : String :=
  String.ofList (s.toList.map Char.toLower)

/-- Whether two texts are equal up to the case of `A`-`Z`. -/
def equalFold (s t : String) : Bool :=
  lower s == lower t

theorem toList_lower (s : String) : (lower s).toList = s.toList.map Char.toLower := by
  simp [lower]

theorem equalFold_iff {s t : String} : equalFold s t = true ↔ lower s = lower t := by
  simp [equalFold]

theorem toLower_of_not_capital {c : Char} (h : c.toNat < 65 ∨ 90 < c.toNat) : c.toLower = c := by
  have hcapital : ('A' : Char).val.toNat = 65 ∧ ('Z' : Char).val.toNat = 90 := ⟨rfl, rfl⟩
  unfold Char.toLower
  rw [dif_neg]
  simp only [ge_iff_le, UInt32.le_iff_toNat_le]
  show ¬ (_ ≤ c.toNat ∧ c.toNat ≤ _)
  omega

/-! ## Blanks

The characters with the Unicode property `White_Space`, which may stand before a number in a date.
-/

/-- The Unicode property `White_Space`. -/
def isBlank (c : Char) : Bool :=
  let n := c.toNat
  (9 ≤ n && n ≤ 13) || n == 0x20 || n == 0x85 || n == 0xA0 || n == 0x1680 ||
    (0x2000 ≤ n && n ≤ 0x200A) || n == 0x2028 || n == 0x2029 || n == 0x202F || n == 0x205F ||
    n == 0x3000

/-- The text from its first character that is not blank. -/
def skipBlanks (cs : List Char) : List Char :=
  cs.dropWhile isBlank

/-! ## Parts

Whether a word occurs in a text, and the parts of a text around separators. -/

/-- Whether `word` stands somewhere in the text. -/
def occurs (word : List Char) : List Char → Bool
  | [] => word.isEmpty
  | c :: cs => word.isPrefixOf (c :: cs) || occurs word cs

theorem occurs_iff {word cs : List Char} : occurs word cs = true ↔ word <:+: cs := by
  induction cs with
  | nil => simp [occurs]
  | cons c cs ih =>
    simp [occurs, ih, List.infix_cons_iff]

/-- The text before the first separator, or all of it. -/
def firstSegment (isSeparator : Char → Bool) (cs : List Char) : List Char :=
  cs.takeWhile fun c => !isSeparator c

/-- The text after the last separator, or all of it. -/
def lastSegment (isSeparator : Char → Bool) (cs : List Char) : List Char :=
  (firstSegment isSeparator cs.reverse).reverse

/-! ## Columns

Texts filled up with spaces to a width, which counts characters. A text that is longer is kept
whole. -/

/-- A text with spaces behind it. -/
def padRight (width : Nat) (s : String) : String :=
  s ++ String.ofList (List.replicate (width - s.length) ' ')

/-- A text with spaces before it. -/
def padLeft (width : Nat) (s : String) : String :=
  String.ofList (List.replicate (width - s.length) ' ') ++ s

/-- A line of a character. -/
def rule (c : Char) (width : Nat) : String :=
  String.ofList (List.replicate width c)

end RecordSql.Text
