import Mathlib.Data.List.Infix
import Mathlib.Data.List.TakeWhile
import RecordSql.Dialect.Driver

/-!
# Names of drivers

The dialect of a driver is looked up in an ordered table of patterns. All that counts is which
fragments occur in the name of the driver's type and what the last part of the name is. Neither
depends on the case of letters, and namespaces in front add nothing but the fragments in them.

* `occursFold_iff`, `isLastPart_iff`: what the patterns look for, said without looking for it.
* `infix_append_cons_iff`: a word without separators is found on one side of a separator.
* `ofDriver_eq`: the dialect of a driver, without a table.
* `dialect_of_driver`: which names have which dialect, and what does not matter for it.
-/

namespace RecordSql

/-! ## Words in texts -/

namespace Text

/-- The word stands somewhere in the text, up to the case of letters. -/
def OccursFold (word text : String) : Prop :=
  ∃ before part after, text = before ++ part ++ after ∧ equalFold part word = true

theorem occursFold_iff {word text : String} :
    OccursFold word text ↔ (lower word).toList <:+: (lower text).toList := by
  simp only [OccursFold, equalFold_iff, toList_lower, List.infix_map_iff]
  constructor
  · rintro ⟨before, part, after, rfl, hpart⟩
    refine ⟨part.toList, ⟨before.toList, after.toList, by simp⟩, ?_⟩
    rw [← toList_lower, ← toList_lower, hpart]
  · rintro ⟨part, ⟨before, after, htext⟩, hpart⟩
    refine ⟨String.ofList before, String.ofList part, String.ofList after, ?_, ?_⟩
    · rw [← String.toList_inj]
      simp [← htext]
    · rw [← String.toList_inj]
      simp [toList_lower, hpart]

instance (word text : String) : Decidable (OccursFold word text) :=
  decidable_of_iff (occurs (lower word).toList (lower text).toList = true)
    (occurs_iff.trans occursFold_iff.symm)

/-- A word is found on one side of a character that is not in it. -/
theorem infix_append_cons_iff {α : Type} {word front back : List α} {c : α} (h : c ∉ word) :
    word <:+: front ++ c :: back ↔ word <:+: front ∨ word <:+: back := by
  have hnothing : ∀ start, start ⊆ word → start <+: c :: back → start = [] := by
    intro start hstart hpre
    cases start with
    | nil => rfl
    | cons d rest =>
      obtain ⟨rfl, -⟩ := List.cons_prefix_cons.mp hpre
      exact absurd (hstart List.mem_cons_self) h
  rw [List.infix_append_iff, List.infix_cons_iff]
  constructor
  · rintro (hfront | (hpre | hback) | ⟨last, start, rfl, hlast, hpre⟩)
    · exact .inl hfront
    · rw [hnothing word (List.Subset.refl word) hpre]
      exact .inl List.nil_infix
    · exact .inr hback
    · rw [hnothing start (List.subset_append_right last start) hpre, List.append_nil]
      exact .inl hlast.isInfix
  · rintro (hfront | hback)
    · exact .inl hfront
    · exact .inr (.inl (.inr hback))

/-- A word is found on one side of characters none of which is in it. -/
theorem infix_separated_iff {α : Type} {word separator front back : List α} (hne : separator ≠ [])
    (h : ∀ c ∈ separator, c ∉ word) :
    word <:+: front ++ separator ++ back ↔ word <:+: front ∨ word <:+: back := by
  induction separator generalizing front with
  | nil => contradiction
  | cons c rest ih =>
    have hc : c ∉ word := h c List.mem_cons_self
    rw [List.append_assoc, List.cons_append, infix_append_cons_iff hc]
    cases rest with
    | nil => rw [List.nil_append]
    | cons d rest =>
      have hrest : word <:+: [] ++ (d :: rest) ++ back ↔ word <:+: [] ∨ word <:+: back :=
        ih (by simp) fun d hd => h d (List.mem_cons_of_mem c hd)
      have hnil : word <:+: [] → word <:+: back := by
        intro hword
        rw [List.infix_nil.mp hword]
        exact List.nil_infix
      rw [List.nil_append] at hrest
      rw [hrest, or_iff_right_of_imp hnil]

/-! ## Last parts of names -/

/-- The text ends with the part, which holds no separator and stands behind one unless it is all of
    the text. -/
def IsLastPart (isSeparator : Char → Bool) (part text : String) : Prop :=
  (∀ c ∈ part.toList, isSeparator c = false) ∧
    (text = part ∨
      ∃ front c, isSeparator c = true ∧ text.toList = front ++ c :: part.toList)

theorem lastSegment_of_forall {isSeparator : Char → Bool} {cs : List Char}
    (h : ∀ c ∈ cs, isSeparator c = false) : lastSegment isSeparator cs = cs := by
  rw [lastSegment, firstSegment, List.takeWhile_eq_self_iff.mpr (by simpa using h),
    List.reverse_reverse]

/-- What stands in front of a separator does not change the last part. -/
theorem lastSegment_append_cons {isSeparator : Char → Bool} {c : Char} (h : isSeparator c = true)
    (front back : List Char) :
    lastSegment isSeparator (front ++ c :: back) = lastSegment isSeparator back := by
  have hstop : List.takeWhile (fun c => !isSeparator c) (c :: front.reverse) = [] :=
    List.takeWhile_cons_of_neg (by simp [h])
  rw [lastSegment, lastSegment, firstSegment, firstSegment, List.reverse_append,
    List.reverse_cons, List.append_assoc, List.singleton_append, List.takeWhile_append, hstop]
  split
  · next hlength => rw [List.append_nil, (List.takeWhile_prefix _).eq_of_length hlength]
  · rfl

/-- What stands in front of separators does not change the last part either. -/
theorem lastSegment_separated {isSeparator : Char → Bool} {separator : List Char}
    (hne : separator ≠ []) (h : ∀ c ∈ separator, isSeparator c = true) (front back : List Char) :
    lastSegment isSeparator (front ++ separator ++ back) = lastSegment isSeparator back := by
  obtain ⟨init, c, rfl⟩ := (List.eq_nil_or_concat' separator).resolve_left hne
  have hassoc : front ++ (init ++ [c]) ++ back = front ++ init ++ c :: back := by simp
  rw [hassoc, lastSegment_append_cons (h c (by simp))]

/-- Letters do not move a last part if none of them becomes a separator or stops being one. -/
theorem lastSegment_map {isSeparator : Char → Bool} {f : Char → Char}
    (h : ∀ c, isSeparator (f c) = isSeparator c) (cs : List Char) :
    lastSegment isSeparator (cs.map f) = (lastSegment isSeparator cs).map f := by
  have hcomp : (fun c => !isSeparator c) ∘ f = fun c => !isSeparator c := by
    funext c
    simp [h]
  rw [lastSegment, lastSegment, firstSegment, firstSegment, ← List.map_reverse, List.takeWhile_map,
    hcomp, List.map_reverse]

theorem isLastPart_iff {isSeparator : Char → Bool} {part text : String} :
    IsLastPart isSeparator part text ↔ lastSegment isSeparator text.toList = part.toList := by
  constructor
  · rintro ⟨hpart, rfl | ⟨front, c, hc, htext⟩⟩
    · exact lastSegment_of_forall hpart
    · rw [htext, lastSegment_append_cons hc, lastSegment_of_forall hpart]
  · intro hpart
    have hreverse : text.toList.reverse.takeWhile (fun c => !isSeparator c) =
        part.toList.reverse := by
      rw [← hpart, lastSegment, firstSegment, List.reverse_reverse]
    have hsplit := List.takeWhile_append_dropWhile (p := fun c => !isSeparator c)
      (l := text.toList.reverse)
    have hstop := List.head?_dropWhile_not (fun c => !isSeparator c) text.toList.reverse
    rw [hreverse] at hsplit
    refine ⟨fun c hc => ?_, ?_⟩
    · have hmem : c ∈ text.toList.reverse.takeWhile (fun c => !isSeparator c) := by
        rw [hreverse]
        exact List.mem_reverse.mpr hc
      simpa using List.mem_takeWhile_imp hmem
    · cases hrest : text.toList.reverse.dropWhile (fun c => !isSeparator c) with
      | nil =>
        rw [hrest, List.append_nil] at hsplit
        exact .inl (String.toList_inj.mp (List.reverse_injective hsplit.symm))
      | cons c rest =>
        rw [hrest] at hsplit hstop
        refine .inr ⟨rest.reverse, c, by simpa using hstop, ?_⟩
        rw [← List.reverse_inj, ← hsplit]
        simp

end Text

open Text

/-- Separators have no case. -/
theorem isNameSeparator_toLower (c : Char) : isNameSeparator c.toLower = isNameSeparator c := by
  by_cases h : 65 ≤ c.toNat ∧ c.toNat ≤ 90
  · have hcapitals : ∀ n ∈ List.range' 65 26,
        isNameSeparator (Char.ofNat n).toLower = isNameSeparator (Char.ofNat n) := by decide
    rw [← Char.ofNat_toNat c]
    exact hcapitals c.toNat (List.mem_range'_1.mpr (by omega))
  · rw [toLower_of_not_capital (by omega)]

namespace Dialect

/-! ## What names tell -/

/-- The fragments of names that a dialect is told by. -/
def fragments : Dialect → List String
  | .msSql => ["sqlserver", "mssql", "tiberius"]
  | .mySql => ["mysql", "mariadb"]
  | .oracle => ["oracle"]
  | .default => []

/-- One of the dialect's fragments occurs in the name. -/
def Marks (d : Dialect) (name : String) : Prop :=
  ∃ fragment ∈ d.fragments, OccursFold fragment name

instance (d : Dialect) (name : String) : Decidable (d.Marks name) :=
  inferInstanceAs (Decidable (∃ fragment ∈ _, _))

/-- The last part of the name is that of the type whose name tells a dialect without a fragment. -/
def NamesConnection (name : String) : Prop :=
  ∃ part, IsLastPart isNameSeparator part name ∧ equalFold part "SqlConnection" = true

theorem namesConnection_iff {name : String} :
    NamesConnection name ↔
      lastSegment isNameSeparator (lower name).toList = (lower "SqlConnection").toList := by
  simp only [NamesConnection, isLastPart_iff, equalFold_iff, toList_lower,
    lastSegment_map isNameSeparator_toLower]
  constructor
  · rintro ⟨part, hpart, hlower⟩
    rw [hpart, ← toList_lower, hlower, toList_lower]
  · intro h
    refine ⟨String.ofList (lastSegment isNameSeparator name.toList), by simp, ?_⟩
    rw [← String.toList_inj, toList_lower, toList_lower, String.toList_ofList, h]

instance (name : String) : Decidable (NamesConnection name) :=
  decidable_of_iff _ namesConnection_iff.symm

theorem matches_fragment {fragment name : String} (h : lower fragment = fragment) :
    (DriverPattern.fragment fragment).matches (lower name).toList =
      decide (OccursFold fragment name) := by
  rw [Bool.eq_iff_iff, DriverPattern.matches, occurs_iff, decide_eq_true_iff, occursFold_iff, h]

theorem matches_typeName (name : String) :
    (DriverPattern.typeName "sqlconnection").matches (lower name).toList =
      decide (NamesConnection name) := by
  rw [Bool.eq_iff_iff, DriverPattern.matches, beq_iff_eq, decide_eq_true_iff, namesConnection_iff]
  rfl

/-- The dialect of a driver, without a table. -/
theorem ofDriver_eq (name : String) :
    ofDriver name =
      if mySql.Marks name then .mySql
      else if oracle.Marks name then .oracle
      else if NamesConnection name ∨ msSql.Marks name then .msSql
      else .default := by
  have hfragment : ∀ fragment ∈ ["mysql", "mariadb", "oracle", "sqlserver", "mssql", "tiberius"],
      (DriverPattern.fragment fragment).matches (lower name).toList =
        decide (OccursFold fragment name) := by
    have hlower : ∀ fragment ∈ ["mysql", "mariadb", "oracle", "sqlserver", "mssql", "tiberius"],
        lower fragment = fragment := by decide +kernel
    exact fun fragment h => matches_fragment (hlower fragment h)
  simp only [List.forall_mem_cons] at hfragment
  obtain ⟨hmysql, hmariadb, horacle, hsqlserver, hmssql, htiberius, -⟩ := hfragment
  simp only [ofDriver, driverPatterns, List.find?_cons, hmysql, hmariadb, horacle, hsqlserver,
    hmssql, htiberius, matches_typeName, Marks, fragments, List.mem_cons, List.not_mem_nil,
    or_false, exists_eq_or_imp, exists_eq_left]
  repeat' split
  all_goals simp_all

theorem ofDriver_congr {name other : String} (hmarks : ∀ d : Dialect, d.Marks name ↔ d.Marks other)
    (hconnection : NamesConnection name ↔ NamesConnection other) :
    ofDriver name = ofDriver other := by
  simp only [ofDriver_eq, hmarks, hconnection]

/-! ## What does not matter -/

theorem marks_of_lower_eq {name other : String} (h : lower name = lower other) (d : Dialect) :
    d.Marks name ↔ d.Marks other := by
  simp only [Marks, occursFold_iff, h]

theorem namesConnection_of_lower_eq {name other : String} (h : lower name = lower other) :
    NamesConnection name ↔ NamesConnection other := by
  rw [namesConnection_iff, namesConnection_iff, h]

/-- The marks between a namespace and what is in it. -/
def qualifiers : List String := [".", "::"]

theorem isNameSeparator_of_mem_qualifiers :
    ∀ qualifier ∈ qualifiers, qualifier.toList ≠ [] ∧ ∀ c ∈ qualifier.toList,
      isNameSeparator c = true := by
  have hall : ∀ qualifier ∈ qualifiers, qualifier.toList ≠ [] ∧
      qualifier.toList.all isNameSeparator = true := by decide
  exact fun qualifier h => (hall qualifier h).imp_right List.all_eq_true.mp

theorem toList_lower_qualified {qualifier : String} (h : qualifier ∈ qualifiers)
    (space name : String) :
    (lower (space ++ qualifier ++ name)).toList =
      (lower space).toList ++ qualifier.toList ++ (lower name).toList := by
  have hlower : ∀ qualifier ∈ qualifiers, qualifier.toList.map Char.toLower = qualifier.toList := by
    decide
  simp only [toList_lower, String.toList_append, List.map_append, hlower qualifier h]

theorem not_isNameSeparator_of_mem_fragments (d : Dialect) :
    ∀ fragment ∈ d.fragments, ∀ c ∈ (lower fragment).toList, isNameSeparator c = false := by
  have hall : ∀ fragment ∈ d.fragments,
      (lower fragment).toList.all (fun c => !isNameSeparator c) = true := by
    cases d <;> decide +kernel
  intro fragment h
  simpa using hall fragment h

/-- A fragment holds no separator, so it does not reach over one. -/
theorem occursFold_qualified_iff {d : Dialect} {fragment qualifier : String}
    (hfragment : fragment ∈ d.fragments) (h : qualifier ∈ qualifiers) (space name : String) :
    OccursFold fragment (space ++ qualifier ++ name) ↔
      OccursFold fragment space ∨ OccursFold fragment name := by
  obtain ⟨hne, hseparator⟩ := isNameSeparator_of_mem_qualifiers qualifier h
  have hapart : ∀ c ∈ qualifier.toList, c ∉ (lower fragment).toList := by
    intro c hc hmem
    have hletter := d.not_isNameSeparator_of_mem_fragments fragment hfragment c hmem
    rw [hseparator c hc] at hletter
    cases hletter
  rw [occursFold_iff, toList_lower_qualified h, infix_separated_iff hne hapart, ← occursFold_iff,
    ← occursFold_iff]

/-- A namespace without a fragment adds none. -/
theorem marks_qualified_iff {qualifier space : String} (h : qualifier ∈ qualifiers)
    (hspace : ∀ d : Dialect, ¬ d.Marks space) (name : String) (d : Dialect) :
    d.Marks (space ++ qualifier ++ name) ↔ d.Marks name := by
  refine exists_congr fun fragment => and_congr_right fun hfragment => ?_
  rw [occursFold_qualified_iff hfragment h]
  exact or_iff_right fun hoccurs => hspace d ⟨fragment, hfragment, hoccurs⟩

theorem namesConnection_qualified_iff {qualifier : String} (h : qualifier ∈ qualifiers)
    (space name : String) :
    NamesConnection (space ++ qualifier ++ name) ↔ NamesConnection name := by
  obtain ⟨hne, hseparator⟩ := isNameSeparator_of_mem_qualifiers qualifier h
  rw [namesConnection_iff, namesConnection_iff, toList_lower_qualified h,
    lastSegment_separated hne hseparator]

/-- **The dialect of a driver.** For every name of a driver's type,

    - names that differ from it only in the case of letters have its dialect;
    - the name in a namespace has its dialect, unless a fragment occurs in the namespace;
    - the dialect is the one of MySQL just if a fragment of that occurs in the name, whatever else
      does, and the one of Oracle just if its fragment does and none of MySQL's;
    - if no fragment occurs in the name, the dialect depends on the last part alone: it is the one
      of SQL Server if that is `SqlConnection`, in any case, and the default one otherwise. -/
theorem dialect_of_driver (name : String) :
    (∀ other, equalFold name other = true → ofDriver other = ofDriver name) ∧
    (∀ space, (∀ d : Dialect, ¬ d.Marks space) → ∀ qualifier ∈ qualifiers,
      ofDriver (space ++ qualifier ++ name) = ofDriver name) ∧
    (ofDriver name = .mySql ↔ mySql.Marks name) ∧
    (ofDriver name = .oracle ↔ oracle.Marks name ∧ ¬ mySql.Marks name) ∧
    ((∀ d : Dialect, ¬ d.Marks name) →
      (ofDriver name = .msSql ↔ NamesConnection name) ∧
        (ofDriver name = .default ↔ ¬ NamesConnection name)) := by
  refine ⟨fun other h => ?_, fun space hspace qualifier h => ?_, ?_, ?_, fun hname => ?_⟩
  · have hlower : lower other = lower name := (equalFold_iff.mp h).symm
    exact ofDriver_congr (marks_of_lower_eq hlower) (namesConnection_of_lower_eq hlower)
  · exact ofDriver_congr (marks_qualified_iff h hspace name)
      (namesConnection_qualified_iff h space name)
  · rw [ofDriver_eq]
    split_ifs <;> simp_all
  · rw [ofDriver_eq]
    split_ifs <;> simp_all
  · simp only [ofDriver_eq, hname, if_false, or_false]
    split_ifs with hconnection <;> simp [hconnection]

/-- The type of a driver for SQL Server, by its bare name and in the namespace of a library. -/
theorem dialect_of_driver_namespace :
    let name := "SqlConnection"
    let space := "Microsoft.Data.SqlClient"
    equalFold name "SQLCONNECTION" = true ∧ (∀ d : Dialect, ¬ d.Marks space) ∧
      (∀ d : Dialect, ¬ d.Marks name) ∧ NamesConnection name ∧
      ofDriver "SQLCONNECTION" = .msSql ∧
      ofDriver "Microsoft.Data.SqlClient.SqlConnection" = .msSql ∧
      ofDriver name = .msSql := by
  intro name space
  have hcase : equalFold name "SQLCONNECTION" = true := by decide
  have hspace : ∀ d : Dialect, ¬ d.Marks space := by
    intro d
    cases d <;> decide +kernel
  have hname : ∀ d : Dialect, ¬ d.Marks name := by
    intro d
    cases d <;> decide +kernel
  have hconnection : NamesConnection name := by decide +kernel
  obtain ⟨hother, hqualified, -, -, hlast⟩ := dialect_of_driver name
  have hmsSql : ofDriver name = .msSql := (hlast hname).1.mpr hconnection
  exact ⟨hcase, hspace, hname, hconnection, (hother _ hcase).trans hmsSql,
    (hqualified space hspace "." (by decide)).trans hmsSql, hmsSql⟩

end Dialect

end RecordSql
