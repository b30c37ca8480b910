/-!
# Numerals

Whole numbers written in base ten, and read back from their digits; numerals in other bases are
read only.

* `value_digits`: reading the digits of a natural number gives the number.
* `value_padded`, `length_padded`: zeros in front change the width and not the number.
-/

namespace RecordSql.Numeral

/-! ## Writing -/

/-- The decimal digits of a natural number, the first one not zero unless it is the only one. -/
def digits (n : Nat) : List Char :=
  Nat.toDigits 10 n

/-- The decimal digits of `n`, with zeros in front up to `width` digits. -/
def padded (width n : Nat) : List Char :=
  List.replicate (width - (digits n).length) '0' ++ digits n

/-- An integer: the digits of its magnitude, after a minus sign if it is negative. -/
def signed (i : Int) : List Char :=
  if i < 0 then '-' :: digits i.natAbs else digits i.natAbs

/-! ## Reading -/

/-- The number that a digit stands for. -/
def digitValue (c : Char) : Nat :=
  c.toNat - '0'.toNat

/-- The number that a row of digits stands for in base ten. -/
def value (ds : List Char) : Nat :=
  ds.foldl (fun n c => 10 * n + digitValue c) 0

/-- Reads one or more digits and nothing else. -/
def natural? (cs : List Char) : Option Nat :=
  if cs ≠ [] ∧ cs.all Char.isDigit then some (value cs) else none

/-- Reads one or more digits after an optional sign. -/
def integer? : List Char → Option Int
  | '+' :: cs => (natural? cs).map Int.ofNat
  | '-' :: cs => (natural? cs).map fun n => -Int.ofNat n
  | cs => (natural? cs).map Int.ofNat

/-! ## The two together -/

theorem foldl_value (ds : List Char) (n : Nat) :
    ds.foldl (fun n c => 10 * n + digitValue c) n = Nat.pow 10 ds.length * n + value ds := by
  induction ds generalizing n with
  | nil => simp [value]
  | cons d ds ih =>
    have head : value (d :: ds) = Nat.pow 10 ds.length * digitValue d + value ds := by
      rw [value, List.foldl_cons, Nat.mul_zero, Nat.zero_add, ih]
    have weight : Nat.pow 10 (ds.length + 1) = Nat.pow 10 ds.length * 10 := rfl
    rw [List.foldl_cons, ih, head, List.length_cons, weight, Nat.mul_add, ← Nat.mul_assoc,
      Nat.add_assoc]

theorem value_append (ds es : List Char) :
    value (ds ++ es) = Nat.pow 10 es.length * value ds + value es := by
  rw [value, List.foldl_append, foldl_value]
  rfl

theorem digitValue_digitChar {d : Nat} (h : d < 10) : digitValue d.digitChar = d := by
  have : d = 0 ∨ d = 1 ∨ d = 2 ∨ d = 3 ∨ d = 4 ∨ d = 5 ∨ d = 6 ∨ d = 7 ∨ d = 8 ∨ d = 9 := by omega
  rcases this with h | h | h | h | h | h | h | h | h | h <;> subst h <;> decide

theorem value_digits (n : Nat) : value (digits n) = n := by
  induction n using Nat.strongRecOn with
  | ind n ih =>
    by_cases h : n < 10
    · rw [digits, Nat.toDigits_of_lt_base h]
      simp [value, digitValue_digitChar h]
    · rw [digits, Nat.toDigits_of_base_le (by decide) (by omega), value_append]
      have := ih (n / 10) (by omega)
      rw [digits] at this
      rw [this]
      simp only [value, List.foldl_cons, List.foldl_nil, List.length_cons, List.length_nil,
        Nat.mul_zero, Nat.zero_add, digitValue_digitChar (Nat.mod_lt n (by decide : 0 < 10))]
      show 10 * (n / 10) + n % 10 = n
      omega

/-! ## The characters of a numeral -/

theorem digits_ne_nil (n : Nat) : digits n ≠ [] :=
  Nat.toDigits_ne_nil

theorem isDigit_of_mem_digits {n : Nat} {c : Char} (h : c ∈ digits n) : c.isDigit = true :=
  Nat.isDigit_of_mem_toDigits (by decide) (by decide) h

theorem padded_ne_nil (width n : Nat) : padded width n ≠ [] :=
  List.append_ne_nil_of_right_ne_nil _ (digits_ne_nil n)

theorem isDigit_of_mem_padded {width n : Nat} {c : Char} (h : c ∈ padded width n) :
    c.isDigit = true := by
  rcases List.mem_append.mp h with hzero | hdigit
  · rw [List.eq_of_mem_replicate hzero]
    rfl
  · exact isDigit_of_mem_digits hdigit

theorem length_padded {width n : Nat} (hwidth : 0 < width) (hn : n < Nat.pow 10 width) :
    (padded width n).length = width := by
  have hdigits : (digits n).length ≤ width := (Nat.length_toDigits_le_iff (by decide) hwidth).mpr hn
  rw [padded, List.length_append, List.length_replicate]
  omega

theorem value_replicate_zero (k : Nat) : value (List.replicate k '0') = 0 := by
  induction k with
  | zero => rfl
  | succ k ih =>
    rw [List.replicate_succ', value_append, ih]
    rfl

theorem value_padded (width n : Nat) : value (padded width n) = n := by
  rw [padded, value_append, value_replicate_zero, value_digits, Nat.mul_zero, Nat.zero_add]

/-! ## Other bases

Digits and numerals in a base up to sixteen, with letters of either case for the digits beyond nine.
-/

/-- The value of a hexadecimal digit. -/
def hexValue? (c : Char) : Option Nat :=
  if '0' ≤ c ∧ c ≤ '9' then some (c.toNat - '0'.toNat)
  else if 'a' ≤ c ∧ c ≤ 'f' then some (c.toNat - 'a'.toNat + 10)
  else if 'A' ≤ c ∧ c ≤ 'F' then some (c.toNat - 'A'.toNat + 10)
  else none

/-- The value of a digit in a base. -/
def valueIn? (base : Nat) (c : Char) : Option Nat :=
  (hexValue? c).filter (· < base)

/-- The number that digits spell in a base. -/
def numberIn? (base : Nat) (cs : List Char) : Option Nat :=
  cs.foldlM (fun n c => (valueIn? base c).map (base * n + ·)) 0

end RecordSql.Numeral
