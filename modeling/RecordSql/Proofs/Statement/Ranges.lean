import RecordSql.Proofs.Statement.Search

/-!
# Claimed ranges

What becomes of a text and bindings of which nothing is known. The names can hold any characters,
so the ranges that they claim can reach into each other; a text whose ranges do not is cut at them,
and only the ranges are changed.

* `Scan`, `Claiming`: which occurrences a scan comes upon, and which of them the bindings claim.
* `claiming_iff`: the search claims what it is asked to.
* `pairwise_precedes_of_replace`, `exists_cuts`: replacement fails on overlap only.
* `form_of_statement`: the positional form of any statement.
-/

namespace RecordSql

open Positional

/-! ## Specification -/

section Specification

variable (sql name : List Char)

/-- The occurrences of a name that a scan comes upon from a position on: the first one, then the
    first one behind its end, and so on. -/
inductive Scan : (pos : Nat) → List Nat → Prop
  | done {pos : Nat} (hnone : ∀ k, pos ≤ k → ¬ name <+: sql.drop k) : Scan pos []
  | found {pos k : Nat} {rest : List Nat} (hle : pos ≤ k) (hk : name <+: sql.drop k)
      (hfirst : ∀ j, pos ≤ j → j < k → ¬ name <+: sql.drop j)
      (hrest : Scan (k + name.length) rest) : Scan pos (k :: rest)

/-- An occurrence of a name can be claimed if the name ends there, and if no binding has claimed its
    start. -/
def Claimable (taken : List Nat) (k : Nat) : Prop :=
  Whole sql name k ∧ k ∉ taken

end Specification

/-- A part of a text that a binding has claimed, as long as the name of the binding. -/
structure Range where
  start : Nat
  binding : Binding
  deriving DecidableEq

namespace Range

/-- The name of the binding, which stands in the range. -/
def name (r : Range) : List Char :=
  r.binding.name.toList

/-- The position behind the range. -/
def stop (r : Range) : Nat :=
  r.start + r.name.length

/-- The position lies in the range. -/
def Covers (r : Range) (k : Nat) : Prop :=
  r.start ≤ k ∧ k < r.stop

/-- No position lies in both ranges. -/
def Apart (r s : Range) : Prop :=
  ∀ k, ¬ (r.Covers k ∧ s.Covers k)

/-- The range ends where the other one begins, or before. -/
def Precedes (r s : Range) : Prop :=
  r.stop ≤ s.start

end Range

/-- What bindings claim, one after the other: each the first occurrence of its name that it can
    claim. A binding without such an occurrence claims nothing, nor does one without a name. -/
inductive Claiming (sql : List Char) : (taken : List Nat) → List Binding → List Range → Prop
  | nil {taken : List Nat} : Claiming sql taken [] []
  | claimed {taken found : List Nat} {b : Binding} {k : Nat} {rest : List Binding}
      {ranges : List Range} (hname : b.name ≠ "") (hscan : Scan sql b.name.toList 0 found)
      (hk : k ∈ found) (hclaimable : Claimable sql b.name.toList taken k)
      (hfirst : ∀ j ∈ found, j < k → ¬ Claimable sql b.name.toList taken j)
      (hrest : Claiming sql (k :: taken) rest ranges) :
      Claiming sql taken (b :: rest) (⟨k, b⟩ :: ranges)
  | unclaimed {taken found : List Nat} {b : Binding} {rest : List Binding} {ranges : List Range}
      (hname : b.name ≠ "") (hscan : Scan sql b.name.toList 0 found)
      (hnone : ∀ k ∈ found, ¬ Claimable sql b.name.toList taken k)
      (hrest : Claiming sql taken rest ranges) : Claiming sql taken (b :: rest) ranges
  | unnamed {taken : List Nat} {b : Binding} {rest : List Binding} {ranges : List Range}
      (hname : b.name = "") (hrest : Claiming sql taken rest ranges) :
      Claiming sql taken (b :: rest) ranges

/-- The text that is cut into ranges, each with what stands in front of it, and a rest, where
    something stands for each range. The first range is the `n`th, counted from zero. -/
def weave (shown : Nat → Range → List Char) (rest : List Char) :
    (n : Nat) → List (List Char × Range) → List Char
  | _, [] => rest
  | n, (gap, r) :: cuts => gap ++ (shown n r ++ weave shown rest (n + 1) cuts)

/-- Each range begins where the text in front of it ends, if that text begins at `pos`. -/
def Contiguous : (pos : Nat) → List (List Char × Range) → Prop
  | _, [] => True
  | pos, (gap, r) :: cuts => r.start = pos + gap.length ∧ Contiguous r.stop cuts

/-! ## The scan for a name -/

section Scan

variable {sql name : List Char} {pos : Nat}

theorem Scan.unique {found other : List Nat} (h : Scan sql name pos found)
    (h' : Scan sql name pos other) : found = other := by
  induction h generalizing other with
  | done hnone =>
    cases h' with
    | done _ => rfl
    | found hle hk _ _ => exact absurd hk (hnone _ hle)
  | @found pos k rest hle hk hfirst _ ih =>
    cases h' with
    | done hnone => exact absurd hk (hnone _ hle)
    | @found _ k' _ hle' hk' hfirst' hrest' =>
      obtain hlt | rfl | hlt := Nat.lt_trichotomy k k'
      · exact absurd hk (hfirst' k hle hlt)
      · rw [ih hrest']
      · exact absurd hk' (hfirst k' hle' hlt)

/-- A scan goes on where the name does not stand. -/
theorem Scan.of_succ {found : List Nat} (hpos : ¬ name <+: sql.drop pos)
    (h : Scan sql name (pos + 1) found) : Scan sql name pos found := by
  cases h with
  | done hnone =>
    refine .done fun k hk => ?_
    rcases Nat.eq_or_lt_of_le hk with rfl | hlt
    · exact hpos
    · exact hnone k hlt
  | found hle hk hfirst hrest =>
    refine .found (by omega) hk (fun j hj hlt => ?_) hrest
    rcases Nat.eq_or_lt_of_le hj with rfl | hj
    · exact hpos
    · exact hfirst j hj hlt

/-- The search comes upon the occurrences that a scan does. -/
theorem scan_occurrences (hname : name ≠ []) (skip : Nat) {cs : List Char}
    (hcs : sql.drop pos = cs) : Scan sql name (pos + skip) (occurrences name skip pos cs) := by
  induction skip, pos, cs using occurrences.induct name with
  | case1 skip pos =>
    refine .done fun k hk hpre => hname (List.prefix_nil.mp ?_)
    have hle : sql.length ≤ k := (List.drop_eq_nil_iff.mp hcs).trans (by omega)
    rwa [List.drop_eq_nil_of_le hle] at hpre
  | case2 skip pos c cs ih =>
    have := ih (by rw [← List.drop_drop, hcs, List.drop_one, List.tail_cons])
    rwa [show pos + 1 + skip = pos + (skip + 1) by omega] at this
  | case3 pos c cs hpre ih =>
    have hlength := List.length_pos_iff.mpr hname
    have hrest := ih (by rw [← List.drop_drop, hcs, List.drop_one, List.tail_cons])
    rw [show pos + 1 + (name.length - 1) = pos + name.length by omega] at hrest
    rw [occurrences, if_pos hpre]
    exact .found (Nat.le_refl pos) (hcs ▸ List.isPrefixOf_iff_prefix.mp hpre)
      (fun j hj hlt => absurd hlt (by omega)) hrest
  | case4 pos c cs hpre ih =>
    have hrest := ih (by rw [← List.drop_drop, hcs, List.drop_one, List.tail_cons])
    rw [occurrences, if_neg hpre]
    exact Scan.of_succ (fun h => hpre (List.isPrefixOf_iff_prefix.mpr (hcs ▸ h))) hrest

theorem Scan.eq_occurrences {found : List Nat} (hname : name ≠ []) (h : Scan sql name 0 found) :
    found = occurrences name 0 0 sql :=
  h.unique (scan_occurrences hname 0 List.drop_zero)

end Scan

/-! ## Claims -/

section Claims

variable {sql : List Char} {taken : List Nat} {bindings : List Binding}

theorem place?_eq_none_iff {name : List Char} (hname : name ≠ []) :
    place? sql name taken = none ↔
      ∀ k ∈ occurrences name 0 0 sql, ¬ Claimable sql name taken k := by
  rw [place?, if_neg hname, List.find?_eq_none]
  simp [Claimable, Whole, and_comm]

/-- A claim together with the binding that makes it. -/
def Range.claim (r : Range) : Claim :=
  ⟨r.start, r.name.length, r.binding.value⟩

@[simp]
theorem Range.start_claim (r : Range) : r.claim.start = r.start := rfl

@[simp]
theorem Range.length_claim (r : Range) : r.claim.length = r.name.length := rfl

/-- The ranges that bindings claim, in the order of the bindings. -/
def claimedRanges (sql : List Char) : (taken : List Nat) → List Binding → List Range
  | _, [] => []
  | taken, b :: rest =>
    match place? sql b.name.toList taken with
    | some start => ⟨start, b⟩ :: claimedRanges sql (start :: taken) rest
    | none => claimedRanges sql taken rest

theorem map_claim_claimedRanges (sql : List Char) (taken : List Nat) (bindings : List Binding) :
    (claimedRanges sql taken bindings).map Range.claim = claims sql taken bindings := by
  induction bindings generalizing taken with
  | nil => rfl
  | cons b rest ih =>
    rw [claimedRanges, claims]
    cases place? sql b.name.toList taken with
    | none => exact ih taken
    | some start => rw [List.map_cons, ih, Range.claim, Range.name, String.length_toList]

theorem claimedRanges_cons_of_unnamed {b : Binding} (hname : b.name = "") (rest : List Binding) :
    claimedRanges sql taken (b :: rest) = claimedRanges sql taken rest := by
  have hplace : place? sql b.name.toList taken = none := by
    rw [hname]
    exact if_pos rfl
  rw [claimedRanges, hplace]

theorem toList_ne_nil {s : String} (h : s ≠ "") : s.toList ≠ [] := by
  rwa [ne_eq, String.toList_eq_nil_iff]

/-- The search claims what it is asked to, and nothing else. -/
theorem claiming_iff {ranges : List Range} :
    Claiming sql taken bindings ranges ↔ ranges = claimedRanges sql taken bindings := by
  constructor
  · intro h
    induction h with
    | nil => rfl
    | claimed hname hscan hk hclaimable hfirst _ ih =>
      have hne := toList_ne_nil hname
      have hfound := hscan.eq_occurrences hne
      subst hfound
      have hplace := (place?_eq_some_iff hne).mpr
        ⟨hk, hclaimable.symm, fun j hj hlt hwhole => by_contra fun hfree =>
          hfirst j hj hlt ⟨hwhole, hfree⟩⟩
      rw [claimedRanges, hplace, ih]
    | unclaimed hname hscan hnone _ ih =>
      have hne := toList_ne_nil hname
      have hfound := hscan.eq_occurrences hne
      subst hfound
      rw [claimedRanges, (place?_eq_none_iff hne).mpr hnone, ih]
    | unnamed hname _ ih =>
      rw [claimedRanges_cons_of_unnamed hname, ih]
  · rintro rfl
    induction bindings generalizing taken with
    | nil => exact .nil
    | cons b rest ih =>
      by_cases hname : b.name = ""
      · rw [claimedRanges_cons_of_unnamed hname]
        exact .unnamed hname ih
      · have hne := toList_ne_nil hname
        have hscan : Scan sql b.name.toList 0 (occurrences b.name.toList 0 0 sql) :=
          scan_occurrences hne 0 List.drop_zero
        rw [claimedRanges]
        cases hplace : place? sql b.name.toList taken with
        | none => exact .unclaimed hname hscan ((place?_eq_none_iff hne).mp hplace) ih
        | some k =>
          obtain ⟨hk, hclaimable, hfirst⟩ := (place?_eq_some_iff hne).mp hplace
          exact .claimed hname hscan hk hclaimable.symm
            (fun j hj hlt h => h.2 (hfirst j hj hlt h.1)) ih

/-- The name of the binding stands in the range, as a whole. -/
structure Range.Holds (r : Range) (sql : List Char) : Prop where
  name_ne_nil : r.name ≠ []
  stands : r.name <+: sql.drop r.start
  whole : Whole sql r.name r.start

theorem of_mem_claimedRanges {r : Range} (h : r ∈ claimedRanges sql taken bindings) :
    r.binding ∈ bindings ∧ r.start ∉ taken ∧ r.Holds sql := by
  induction bindings generalizing taken with
  | nil => cases h
  | cons b rest ih =>
    rw [claimedRanges] at h
    cases hplace : place? sql b.name.toList taken with
    | none =>
      rw [hplace] at h
      obtain ⟨hmem, hr⟩ := ih h
      exact ⟨List.mem_cons_of_mem b hmem, hr⟩
    | some k =>
      rw [hplace] at h
      rcases List.mem_cons.mp h with rfl | h
      · have hne : b.name.toList ≠ [] := by
          intro hnil
          rw [place?, if_pos hnil] at hplace
          cases hplace
        obtain ⟨hk, ⟨hfree, hwhole⟩, -⟩ := (place?_eq_some_iff hne).mp hplace
        exact ⟨List.mem_cons_self, hfree, hne, (prefix_of_mem_occurrences hk).2, hwhole⟩
      · obtain ⟨hmem, hfree, hholds⟩ := ih h
        exact ⟨List.mem_cons_of_mem b hmem, fun hin => hfree (List.mem_cons_of_mem k hin), hholds⟩

theorem nodup_start_claimedRanges (sql : List Char) (taken : List Nat) (bindings : List Binding) :
    ((claimedRanges sql taken bindings).map Range.start).Nodup := by
  induction bindings generalizing taken with
  | nil => exact List.nodup_nil
  | cons b rest ih =>
    rw [claimedRanges]
    cases place? sql b.name.toList taken with
    | none => exact ih taken
    | some k =>
      refine List.nodup_cons.mpr ⟨fun hin => ?_, ih (k :: taken)⟩
      obtain ⟨r, hr, hstart⟩ := List.mem_map.mp hin
      exact (of_mem_claimedRanges hr).2.1 (hstart ▸ List.mem_cons_self)

end Claims

/-! ## Ranges in the order of the text -/

section Order

/-- Ranges in the order of their starts. -/
def inOrder (ranges : List Range) : List Range :=
  ranges.insertionSort fun r s => r.start ≤ s.start

theorem perm_inOrder (ranges : List Range) : (inOrder ranges).Perm ranges :=
  List.perm_insertionSort _ ranges

variable {ranges : List Range}

theorem pairwise_inOrder (h : (ranges.map Range.start).Nodup) :
    (inOrder ranges).Pairwise fun r s => r.start < s.start := by
  have : IsTrans Range fun r s => r.start ≤ s.start := ⟨fun _ _ _ => Nat.le_trans⟩
  have : Std.Total fun r s : Range => r.start ≤ s.start := ⟨fun _ _ => Nat.le_total _ _⟩
  have hle := List.pairwise_insertionSort (fun r s : Range => r.start ≤ s.start) ranges
  have hne : (inOrder ranges).Pairwise fun r s => r.start ≠ s.start :=
    List.pairwise_map.mp (((perm_inOrder ranges).map Range.start).nodup_iff.mpr h)
  exact hle.imp₂ (fun _ _ => Nat.lt_of_le_of_ne) hne

theorem sortClaims_map_claim (h : (ranges.map Range.start).Nodup) :
    sortClaims (ranges.map Range.claim) = (inOrder ranges).map Range.claim :=
  sortClaims_of_perm ((perm_inOrder ranges).symm.map _)
    (List.pairwise_map.mpr (pairwise_inOrder h))

theorem Range.apart_iff_precedes {r s : Range} (hs : s.name ≠ []) (h : r.start < s.start) :
    r.Apart s ↔ r.Precedes s := by
  have hlength := List.length_pos_iff.mpr hs
  constructor
  · intro hapart
    by_contra hlt
    simp only [Precedes] at hlt
    exact hapart s.start ⟨⟨by omega, by omega⟩, Nat.le_refl _, by simp only [stop]; omega⟩
  · rintro hle k ⟨⟨-, hr⟩, hs, -⟩
    simp only [Precedes] at hle
    omega

theorem Range.apart_comm {r s : Range} (h : r.Apart s) : s.Apart r :=
  fun k hk => h k hk.symm

/-- Ranges are apart from each other if, in the order of the text, each ends before the next. -/
theorem pairwise_apart_iff {sql : List Char} (h : (ranges.map Range.start).Nodup)
    (hholds : ∀ r ∈ ranges, r.Holds sql) :
    ranges.Pairwise Range.Apart ↔ (inOrder ranges).Pairwise Range.Precedes := by
  rw [← (perm_inOrder ranges).pairwise_iff Range.apart_comm]
  have hname : ∀ r ∈ inOrder ranges, r.name ≠ [] :=
    fun r hr => (hholds r ((perm_inOrder ranges).mem_iff.mp hr)).name_ne_nil
  constructor
  · intro hapart
    exact (hapart.and (pairwise_inOrder h)).imp_of_mem fun hr hs hrs =>
      (Range.apart_iff_precedes (hname _ hs) hrs.2).mp hrs.1
  · intro hprecedes
    exact (hprecedes.and (pairwise_inOrder h)).imp_of_mem fun hr hs hrs =>
      (Range.apart_iff_precedes (hname _ hs) hrs.2).mpr hrs.1

end Order

/-! ## Replacement -/

section Replacement

variable {style : MarkerStyle} {n cursor : Nat} {ranges : List Range}

/-- Where the replacement gives a text, each range begins behind the one before it. -/
theorem pairwise_precedes_of_replace {cs out : List Char}
    (h : replace style n cursor (ranges.map Range.claim) cs = some out) :
    (∀ r ∈ ranges, cursor ≤ r.start) ∧ ranges.Pairwise Range.Precedes := by
  induction ranges generalizing n cursor cs out with
  | nil => exact ⟨by simp, .nil⟩
  | cons r rest ih =>
    rw [List.map_cons, replace] at h
    split_ifs at h with hlt
    simp only [Option.bind_eq_bind, Option.bind_eq_some_iff] at h
    obtain ⟨tail, htail, -⟩ := h
    obtain ⟨hstop, hrest⟩ := ih htail
    have hstart : cursor ≤ r.start := Nat.le_of_not_lt hlt
    refine ⟨List.forall_mem_cons.mpr ⟨hstart, fun s hs => ?_⟩, hrest.cons hstop⟩
    exact (hstart.trans (Nat.le_add_right _ _)).trans (hstop s hs)

/-- Where each range begins behind the one before it, the text is cut at the ranges, and the
    replacement gives the text with markers in their place. -/
theorem exists_cuts {sql : List Char} (style : MarkerStyle) (n cursor : Nat)
    (hholds : ∀ r ∈ ranges, r.Holds sql)
    (hcursor : ∀ r ∈ ranges, cursor ≤ r.start) (hprecedes : ranges.Pairwise Range.Precedes) :
    ∃ cuts rest, cuts.map Prod.snd = ranges ∧ Contiguous cursor cuts ∧
      sql.drop cursor = weave (fun _ r => r.name) rest n cuts ∧
      replace style n cursor (ranges.map Range.claim) (sql.drop cursor) =
        some (weave (fun n _ => style.marker n) rest n cuts) := by
  induction ranges generalizing n cursor with
  | nil => exact ⟨[], sql.drop cursor, rfl, trivial, rfl, rfl⟩
  | cons r ranges ih =>
    obtain ⟨hr, hholds⟩ := List.forall_mem_cons.mp hholds
    obtain ⟨hle, -⟩ := List.forall_mem_cons.mp hcursor
    obtain ⟨hfirst, hprecedes⟩ := List.pairwise_cons.mp hprecedes
    obtain ⟨cuts, rest, hranges, hcontiguous, hnames, hreplace⟩ :=
      ih (n + 1) r.stop hholds hfirst hprecedes
    obtain ⟨after, hafter⟩ := hr.stands
    have hlt : r.start < sql.length := by
      by_contra hge
      rw [List.drop_eq_nil_of_le (Nat.le_of_not_lt hge)] at hafter
      exact hr.name_ne_nil (List.append_eq_nil_iff.mp hafter).1
    have hgap : ((sql.drop cursor).take (r.start - cursor)).length = r.start - cursor := by
      rw [List.length_take, List.length_drop]
      omega
    have hstart : (sql.drop cursor).drop (r.start - cursor) = r.name ++ sql.drop r.stop := by
      rw [List.drop_drop, Nat.add_sub_cancel' hle, Range.stop, ← List.drop_drop, ← hafter,
        List.drop_left]
    refine ⟨((sql.drop cursor).take (r.start - cursor), r) :: cuts, rest, ?_, ?_, ?_, ?_⟩
    · rw [List.map_cons, hranges]
    · exact ⟨by omega, hcontiguous⟩
    · rw [weave, ← hnames, ← hstart, List.take_append_drop]
    · have hdrop : (sql.drop cursor).drop (r.start - cursor + r.name.length) =
          sql.drop r.stop := by
        rw [← List.drop_drop, hstart, List.drop_left]
      rw [List.map_cons, replace, Range.start_claim, if_neg (Nat.not_lt.mpr hle)]
      simp only [Range.length_claim, hdrop]
      rw [← Range.stop, hreplace, weave]
      simp

end Replacement

/-! ## Statements -/

section Statements

theorem sortClaims_claims (sql : List Char) (bindings : List Binding) :
    sortClaims (claims sql [] bindings) =
      (inOrder (claimedRanges sql [] bindings)).map Range.claim := by
  rw [← map_claim_claimedRanges, sortClaims_map_claim (nodup_start_claimedRanges sql [] bindings)]

/-- The order of the claims does not matter. -/
theorem positional?_congr {sql : String} {bindings others : List Binding}
    (h : (claims sql.toList [] bindings).Perm (claims sql.toList [] others)) (style : MarkerStyle) :
    Statement.positional? style ⟨sql, bindings⟩ = Statement.positional? style ⟨sql, others⟩ := by
  have hsorted := sortClaims_claims sql.toList others
  have hnodup := nodup_start_claimedRanges sql.toList [] others
  rw [← map_claim_claimedRanges _ _ others] at h
  simp only [Statement.positional?, hsorted, sortClaims_of_perm
    (h.trans ((perm_inOrder _).symm.map _)) (List.pairwise_map.mpr (pairwise_inOrder hnodup))]

variable (s : Statement) (style : MarkerStyle)

theorem pairwise_apart_claimedRanges_iff :
    (claimedRanges s.sql.toList [] s.bindings).Pairwise Range.Apart ↔
      (inOrder (claimedRanges s.sql.toList [] s.bindings)).Pairwise Range.Precedes :=
  pairwise_apart_iff (nodup_start_claimedRanges _ _ _) fun _ hr => (of_mem_claimedRanges hr).2.2

/-- There is no positional form if ranges overlap. -/
theorem positional?_eq_none_of_not_apart
    (h : ¬ (claimedRanges s.sql.toList [] s.bindings).Pairwise Range.Apart) :
    s.positional? style = none := by
  rw [pairwise_apart_claimedRanges_iff] at h
  rw [Statement.positional?, sortClaims_claims]
  cases hreplace : replace style 0 0 _ s.sql.toList with
  | none => rfl
  | some out => exact absurd (pairwise_precedes_of_replace hreplace).2 h

/-- There is a positional form if ranges do not overlap: the text with the ranges cut out, and
    markers in their place. -/
theorem positional?_of_apart
    (h : (claimedRanges s.sql.toList [] s.bindings).Pairwise Range.Apart) :
    ∃ cuts rest, (cuts.map Prod.snd).Perm (claimedRanges s.sql.toList [] s.bindings) ∧
      Contiguous 0 cuts ∧ s.sql.toList = weave (fun _ r => r.name) rest 0 cuts ∧
      s.positional? style = some
        ⟨String.ofList (weave (fun n _ => style.marker n) rest 0 cuts),
          cuts.map fun cut => cut.2.binding.value⟩ := by
  have hperm := perm_inOrder (claimedRanges s.sql.toList [] s.bindings)
  have hholds : ∀ r ∈ inOrder (claimedRanges s.sql.toList [] s.bindings),
      r.Holds s.sql.toList :=
    fun r hr => (of_mem_claimedRanges (hperm.mem_iff.mp hr)).2.2
  obtain ⟨cuts, rest, hranges, hcontiguous, hnames, hreplace⟩ :=
    exists_cuts style 0 0 hholds (fun r _ => Nat.zero_le r.start)
      ((pairwise_apart_claimedRanges_iff s).mp h)
  rw [List.drop_zero] at hnames hreplace
  refine ⟨cuts, rest, hranges ▸ hperm, hcontiguous, hnames, ?_⟩
  have hvalues : ((inOrder (claimedRanges s.sql.toList [] s.bindings)).map Range.claim).map
      Claim.value = cuts.map fun cut => cut.2.binding.value := by
    rw [← hranges, List.map_map, List.map_map]
    rfl
  rw [Statement.positional?, sortClaims_claims]
  simp only [hreplace, hvalues]
  rfl

end Statements

/-- **What becomes of any statement.** The bindings of a statement, with any text and any names,
    claim ranges of the text, in one way. In either style of markers,

    - there is no positional form just if two of the ranges overlap;
    - if none do, then the text can be cut at the ranges so that with their names in their place it
      is the text itself, and with markers in their place, numbered from left to right, it is the
      text of the positional form; the values of this are those of the bindings whose ranges have
      the markers, in the same order. -/
theorem form_of_statement (s : Statement) (style : MarkerStyle) :
    ∃ ranges, (∀ other, Claiming s.sql.toList [] s.bindings other ↔ other = ranges) ∧
      (s.positional? style = none ↔ ¬ ranges.Pairwise Range.Apart) ∧
      (ranges.Pairwise Range.Apart →
        ∃ cuts rest, (cuts.map Prod.snd).Perm ranges ∧ Contiguous 0 cuts ∧
          s.sql.toList = weave (fun _ r => r.name) rest 0 cuts ∧
          s.positional? style = some
            ⟨String.ofList (weave (fun n _ => style.marker n) rest 0 cuts),
              cuts.map fun cut => cut.2.binding.value⟩) := by
  refine ⟨claimedRanges s.sql.toList [] s.bindings, fun _ => claiming_iff, ⟨fun hnone hapart => ?_,
    positional?_eq_none_of_not_apart s style⟩, positional?_of_apart s style⟩
  obtain ⟨_, _, -, -, -, hsome⟩ := positional?_of_apart s style hapart
  rw [hnone] at hsome
  cases hsome

/-- Two names that share a character of the text claim ranges that overlap. -/
example : Statement.positional? .question
    ⟨"SELECT a-b-c", [⟨"a-b", .int 1⟩, ⟨"b-c", .int 2⟩]⟩ = none := by
  rfl

end RecordSql
