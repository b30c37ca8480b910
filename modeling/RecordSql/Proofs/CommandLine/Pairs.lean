import RecordSql.CommandLine.Arguments
import RecordSql.Proofs.Value.LooseTexts

/-!
# Pairs of fields and typed values

A pair is cut at its first equals sign. Everything behind that sign is the value, which may hold
further equals signs, and is taken as a typed text.

* `readPair_eq_ok_iff`, `readPair_eq_error_iff`: which texts are pairs, and what is said of others.
* `values_of_typed`: what typed values stand for, alone and in pairs.
-/

namespace RecordSql

namespace CommandLine

theorem firstSegment_of_notMem {name : List Char} (h : '=' ∉ name) (rest : List Char) :
    Text.firstSegment (· == '=') (name ++ rest) =
      name ++ Text.firstSegment (· == '=') rest := by
  refine List.takeWhile_append_of_pos fun c hc => ?_
  have hne : c ≠ '=' := fun heq => h (heq ▸ hc)
  simp [hne]

theorem readPair_of_notMem {s : String} (h : '=' ∉ s.toList) :
    readPair s = .error ("expected FIELD=VALUE, got '" ++ s ++ "'") := by
  have hname : Text.firstSegment (· == '=') s.toList = s.toList := by
    have happend := firstSegment_of_notMem h []
    rwa [List.append_nil, Text.firstSegment, Text.firstSegment, List.takeWhile_nil,
      List.append_nil] at happend
  unfold readPair
  dsimp only
  rw [hname, List.drop_length]

/-- A text is cut at its first equals sign. -/
theorem readPair_of_cut {s : String} {name rest : List Char} (hs : s.toList = name ++ '=' :: rest)
    (hname : '=' ∉ name) :
    readPair s =
      if name = [] then .error ("missing field name in '" ++ s ++ "'")
      else .ok (String.ofList name, .ofLooseText (String.ofList rest)) := by
  have hfirst : Text.firstSegment (· == '=') s.toList = name := by
    rw [hs, firstSegment_of_notMem hname]
    exact List.append_nil name
  unfold readPair
  dsimp only
  rw [hfirst, hs, List.drop_left]

/-- A text without an equals sign is no pair, nor is one that begins with it. -/
theorem readPair_eq_error_iff {s e : String} :
    readPair s = .error e ↔
      '=' ∉ s.toList ∧ e = "expected FIELD=VALUE, got '" ++ s ++ "'" ∨
        s.toList.head? = some '=' ∧ e = "missing field name in '" ++ s ++ "'" := by
  by_cases hmem : '=' ∈ s.toList
  · obtain ⟨name, rest, hs, hname⟩ := List.eq_append_cons_of_mem hmem
    rw [readPair_of_cut hs hname]
    cases name with
    | nil => simp [hs, eq_comm]
    | cons c name =>
      have hne : c ≠ '=' := fun heq => hname (heq ▸ List.mem_cons_self)
      simp [hs, hne]
  · have hhead : s.toList.head? ≠ some '=' := fun hhead => hmem (List.mem_of_head? hhead)
    rw [readPair_of_notMem hmem]
    simp [hmem, hhead, eq_comm]

/-- The field of a pair has no equals sign in it, and the value all of the others. -/
theorem readPair_eq_ok_iff {s field : String} {v : Value} :
    readPair s = .ok (field, v) ↔
      ∃ rest, s = field ++ "=" ++ rest ∧ field ≠ "" ∧ '=' ∉ field.toList ∧
        v = .ofLooseText rest := by
  constructor
  · intro h
    by_cases hmem : '=' ∈ s.toList
    · obtain ⟨name, rest, hs, hname⟩ := List.eq_append_cons_of_mem hmem
      rw [readPair_of_cut hs hname] at h
      split at h
      case isTrue => cases h
      case isFalse hne =>
        obtain ⟨rfl, rfl⟩ := Prod.mk.inj (Except.ok.inj h)
        refine ⟨String.ofList rest, ?_, ?_, ?_, rfl⟩
        · rw [← String.toList_inj, hs]
          simp
        · simpa using hne
        · rwa [String.toList_ofList]
    · rw [readPair_of_notMem hmem] at h
      cases h
  · rintro ⟨rest, rfl, hne, hname, rfl⟩
    have hs : (field ++ "=" ++ rest).toList = field.toList ++ '=' :: rest.toList := by simp
    rw [readPair_of_cut hs hname, if_neg (by simpa using hne), String.ofList_toList,
      String.ofList_toList]

end CommandLine

open CommandLine

/-- **What typed values stand for.** A typed text stands for the value that it is as one of a kind,
    an integer for itself and not for a floating point number, and for itself if it is of no kind.
    No text is of two kinds, but for those of numbers, so any order of the kinds comes to the same
    that tries integers before floating point numbers. A text is a pair, cut at its first equals
    sign, just if it has one and does not begin with it; all behind that sign is the typed value. -/
theorem values_of_typed (s : String) :
    (∀ v, Value.ofLooseText s = v ↔ StandsFor s v) ∧
      (∀ kind other v w, Spells s kind v → Spells s other w →
        kind = other ∨ (kind = .int ∨ kind = .float) ∧ (other = .int ∨ other = .float)) ∧
      (∀ order, Tries order →
        (order.findSome? (LooseKind.read s)).getD (.text s) = Value.ofLooseText s) ∧
      (∀ e, readPair s = .error e ↔
        '=' ∉ s.toList ∧ e = "expected FIELD=VALUE, got '" ++ s ++ "'" ∨
          s.toList.head? = some '=' ∧ e = "missing field name in '" ++ s ++ "'") ∧
      ∀ field v, readPair s = .ok (field, v) ↔
        ∃ rest, s = field ++ "=" ++ rest ∧ field ≠ "" ∧ '=' ∉ field.toList ∧ StandsFor rest v := by
  refine ⟨fun v => Value.ofLooseText_eq_iff, fun kind other v w => Spells.exclusive,
    fun order horder => horder.findSome?_eq s, fun e => readPair_eq_error_iff, ?_⟩
  intro field v
  rw [readPair_eq_ok_iff]
  refine exists_congr fun rest => ?_
  rw [← Value.ofLooseText_eq_iff, eq_comm (a := v)]

/-- A value may be a number too large for a word, and may hold an equals sign. -/
example : readPair "Id=9223372036854775808" = .ok ("Id", .float ⟨0x43E0000000000000⟩) ∧
    readPair "Note=a=b" = .ok ("Note", .text "a=b") := by
  decide +kernel

end RecordSql
