import RecordSql.Proofs.Statement.Ranges

/-!
# Marked names

Names that are a marker and word characters, in any text. Where such a name stands whole, it tells
where it begins and where it ends, so names that differ claim ranges that do not touch, and no
binding is in the way of another.

* `eq_of_whole`, `Range.apart_of_marked`: two marked names stand whole in ranges that are apart.
* `place?_eq_of_free`: what is taken does not matter if the name does not stand there.
* `claimedRanges_eq_filterMap`: each binding claims as if it were alone.
* `form_of_perm`: the order of the bindings does not matter.
-/

namespace RecordSql

open Text Positional

/-- A character that does not continue a name, and then word characters only, if any. -/
def IsMarked (name : List Char) : Prop :=
  ∃ marker word, name = marker :: word ∧ isWordChar marker = false ∧
    ∀ ch ∈ word, isWordChar ch = true

theorem Binding.IsPlaceholder.isMarked {d : Dialect} {b : Binding} (h : b.IsPlaceholder d) :
    IsMarked b.name.toList := by
  obtain ⟨word, hword, hname⟩ := h
  exact ⟨d.marker, word, hname, d.isWordChar_marker, hword⟩

/-! ## Where marked names stand -/

section Whole

variable {sql name other : List Char} {j k : Nat}

/-- One marked name stands whole at a position, at most. -/
theorem eq_of_whole (hname : IsMarked name) (hother : IsMarked other)
    (hn : name <+: sql.drop k) (hwhole : Whole sql name k) (ho : other <+: sql.drop k)
    (hwhole' : Whole sql other k) : name = other := by
  obtain ⟨marker, word, rfl, -, hword⟩ := hname
  obtain ⟨marker', word', rfl, -, hword'⟩ := hother
  obtain ⟨after, hafter⟩ := hn
  obtain ⟨after', hafter'⟩ := ho
  rw [Whole, ← List.drop_drop, ← hafter, List.drop_left] at hwhole
  rw [Whole, ← List.drop_drop, ← hafter', List.drop_left] at hwhole'
  obtain ⟨rfl, htext⟩ : marker = marker' ∧ word ++ after = word' ++ after' :=
    List.cons.inj (hafter.trans hafter'.symm)
  have hle : word <+: word' :=
    (prefix_append_iff hword hwhole' word').mp (htext ▸ List.prefix_append word after)
  have hge : word' <+: word :=
    (prefix_append_iff hword' hwhole word).mp (htext ▸ List.prefix_append word' after')
  rw [hle.eq_of_length_le hge.length_le]

/-- A marked name does not begin within the word of another. -/
theorem le_of_lt_of_stands (hname : IsMarked name) (hother : IsMarked other)
    (hn : name <+: sql.drop j) (ho : other <+: sql.drop k) (hlt : j < k) :
    j + name.length ≤ k := by
  obtain ⟨marker, word, rfl, -, hword⟩ := hname
  obtain ⟨marker', word', rfl, hmarker', -⟩ := hother
  obtain ⟨after, hafter⟩ := hn
  by_contra hwithin
  obtain ⟨i, rfl⟩ : ∃ i, k = j + (i + 1) := ⟨k - j - 1, by omega⟩
  have hi : i < word.length := by
    rw [List.length_cons] at hwithin
    omega
  rw [← List.drop_drop, ← hafter, List.cons_append, List.drop_succ_cons,
    List.drop_append_of_le_length hi.le, List.drop_eq_getElem_cons hi, List.cons_append,
    List.cons_prefix_cons] at ho
  have := hword _ (ho.1 ▸ List.getElem_mem hi)
  rw [hmarker'] at this
  contradiction

end Whole

theorem Range.apart_of_marked {sql : List Char} {r s : Range} (hr : r.Holds sql)
    (hs : s.Holds sql) (hmarked : IsMarked r.name) (hmarked' : IsMarked s.name)
    (hne : r.name ≠ s.name) : r.Apart s := by
  rintro k ⟨⟨hrk, hkr⟩, hsk, hks⟩
  obtain hlt | heq | hlt := Nat.lt_trichotomy r.start s.start
  · have := le_of_lt_of_stands hmarked hmarked' hr.stands hs.stands hlt
    rw [stop] at hkr
    omega
  · have hstands := hs.stands
    have hwhole := hs.whole
    rw [← heq] at hstands hwhole
    exact hne (eq_of_whole hmarked hmarked' hr.stands hr.whole hstands hwhole)
  · have := le_of_lt_of_stands hmarked' hmarked hs.stands hr.stands hlt
    rw [stop] at hks
    omega

/-! ## Bindings with marked names -/

section Bindings

variable {sql : List Char} {taken : List Nat} {bindings : List Binding}

/-- What is taken does not matter for a name that does not stand whole there. -/
theorem place?_eq_of_free {name : List Char} (hname : name ≠ [])
    (hfree : ∀ k ∈ taken, ¬ (name <+: sql.drop k ∧ Whole sql name k)) :
    place? sql name taken = place? sql name [] := by
  have hfree' : ∀ k ∈ occurrences name 0 0 sql, Whole sql name k → k ∉ taken :=
    fun k hk hwhole hin => hfree k hin ⟨(prefix_of_mem_occurrences hk).2, hwhole⟩
  ext k
  simp only [place?_eq_some_iff hname, List.not_mem_nil, not_false_eq_true, true_and]
  constructor
  · rintro ⟨hk, ⟨-, hwhole⟩, hfirst⟩
    exact ⟨hk, hwhole, fun j hj hlt hwhole' => hfree' j hj hwhole' (hfirst j hj hlt hwhole')⟩
  · rintro ⟨hk, hwhole, hfirst⟩
    exact ⟨hk, ⟨hfree' k hk hwhole, hwhole⟩,
      fun j hj hlt hwhole' => absurd hwhole' (hfirst j hj hlt)⟩

/-- The range that a binding claims if it is alone. -/
def Binding.range? (sql : List Char) (b : Binding) : Option Range :=
  (place? sql b.name.toList []).map fun k => ⟨k, b⟩

/-- Bindings with marked names that differ each claim as if they were alone, as long as none of
    their names stands whole where something is taken. -/
theorem claimedRanges_eq_filterMap (hmarked : ∀ b ∈ bindings, IsMarked b.name.toList)
    (hnames : (bindings.map Binding.name).Nodup)
    (hfree : ∀ b ∈ bindings, ∀ k ∈ taken,
      ¬ (b.name.toList <+: sql.drop k ∧ Whole sql b.name.toList k)) :
    claimedRanges sql taken bindings = bindings.filterMap (Binding.range? sql) := by
  induction bindings generalizing taken with
  | nil => rfl
  | cons b rest ih =>
    obtain ⟨hb, hmarked⟩ := List.forall_mem_cons.mp hmarked
    obtain ⟨hnew, hnames⟩ := List.nodup_cons.mp hnames
    obtain ⟨hfreeb, hfree⟩ := List.forall_mem_cons.mp hfree
    have hne : b.name.toList ≠ [] := by
      obtain ⟨marker, word, hname, -⟩ := hb
      rw [hname]
      exact List.cons_ne_nil _ _
    rw [claimedRanges, place?_eq_of_free hne hfreeb]
    cases hplace : place? sql b.name.toList [] with
    | none =>
      rw [List.filterMap_cons_none (by rw [Binding.range?, hplace, Option.map_none])]
      exact ih hmarked hnames hfree
    | some k =>
      obtain ⟨hk, ⟨-, hwhole⟩, -⟩ := (place?_eq_some_iff hne).mp hplace
      rw [List.filterMap_cons_some (by rw [Binding.range?, hplace, Option.map_some])]
      refine congrArg (⟨k, b⟩ :: ·) (ih hmarked hnames fun c hc => ?_)
      refine List.forall_mem_cons.mpr ⟨?_, hfree c hc⟩
      rintro ⟨hstands, hwhole'⟩
      have hsame := eq_of_whole (hmarked c hc) hb hstands hwhole'
        (prefix_of_mem_occurrences hk).2 hwhole
      exact hnew (String.toList_inj.mp hsame ▸ List.mem_map_of_mem hc)

/-- Bindings with marked names that differ claim ranges that are apart. -/
theorem pairwise_apart_of_marked (hmarked : ∀ b ∈ bindings, IsMarked b.name.toList)
    (hnames : (bindings.map Binding.name).Nodup) :
    (claimedRanges sql [] bindings).Pairwise Range.Apart := by
  have hmem : ∀ r ∈ claimedRanges sql [] bindings, IsMarked r.name ∧ r.Holds sql :=
    fun r hr => ⟨hmarked _ (of_mem_claimedRanges hr).1, (of_mem_claimedRanges hr).2.2⟩
  have hdiffer : (claimedRanges sql [] bindings).Pairwise fun r s => r.name ≠ s.name := by
    rw [claimedRanges_eq_filterMap hmarked hnames (by simp)]
    refine List.pairwise_filterMap.mpr ((List.pairwise_map.mp hnames).imp ?_)
    intro b c hne r hr s hs hsame
    obtain ⟨_, -, rfl⟩ := Option.map_eq_some_iff.mp hr
    obtain ⟨_, -, rfl⟩ := Option.map_eq_some_iff.mp hs
    exact hne (String.toList_inj.mp hsame)
  exact hdiffer.imp_of_mem fun hr hs hne =>
    Range.apart_of_marked (hmem _ hr).2 (hmem _ hs).2 (hmem _ hr).1 (hmem _ hs).1 hne

end Bindings

/-- **The order of bindings.** In any text, bindings whose names are different and each a marker
    with word characters behind it claim ranges that do not overlap, so there is a positional form;
    and it is the same, text and values, whatever the order of the bindings. -/
theorem form_of_perm {sql : String} {bindings others : List Binding}
    (hperm : others.Perm bindings) (hmarked : ∀ b ∈ bindings, IsMarked b.name.toList)
    (hnames : (bindings.map Binding.name).Nodup) (style : MarkerStyle) :
    ∃ p, Statement.positional? style ⟨sql, bindings⟩ = some p ∧
      Statement.positional? style ⟨sql, others⟩ = some p := by
  have hmarked' : ∀ b ∈ others, IsMarked b.name.toList :=
    fun b hb => hmarked b (hperm.mem_iff.mp hb)
  have hnames' := (hperm.map Binding.name).nodup_iff.mpr hnames
  have hclaims : (claims sql.toList [] others).Perm (claims sql.toList [] bindings) := by
    rw [← map_claim_claimedRanges, ← map_claim_claimedRanges,
      claimedRanges_eq_filterMap hmarked hnames (by simp),
      claimedRanges_eq_filterMap hmarked' hnames' (by simp)]
    exact (hperm.filterMap _).map _
  obtain ⟨cuts, rest, -, -, -, hsome⟩ :=
    positional?_of_apart ⟨sql, bindings⟩ style (pairwise_apart_of_marked hmarked hnames)
  exact ⟨_, hsome, (positional?_congr hclaims style).trans hsome⟩

/-- A name of which another one is the beginning, and a name that does not stand in the text, bound
    from the right to the left. -/
theorem form_of_perm_activity :
    let sql := "UPDATE Activity SET Name=@Name WHERE Id=@pId AND IdType=@pIdType"
    let type : Binding := ⟨"@pIdType", .int 2⟩
    let id : Binding := ⟨"@pId", .int 3⟩
    let name : Binding := ⟨"@Name", .text "Walking"⟩
    let unused : Binding := ⟨"@Unused", .null⟩
    [unused, name, id, type].Perm [type, id, name, unused] ∧
      (∀ b ∈ [type, id, name, unused], IsMarked b.name.toList) ∧
      ([type, id, name, unused].map Binding.name).Nodup ∧
      ∃ p, Statement.positional? .numbered ⟨sql, [type, id, name, unused]⟩ = some p ∧
        Statement.positional? .numbered ⟨sql, [unused, name, id, type]⟩ = some p := by
  intro sql type id name unused
  have hperm : [unused, name, id, type].Perm [type, id, name, unused] :=
    List.reverse_perm [type, id, name, unused]
  have hplaceholder : ∀ (b : Binding) (word : String),
      word.toList.all (fun ch => ch.toNat < 0x80 && (ch.isAlphanum || ch == '_')) = true →
      b.name.toList = '@' :: word.toList → IsMarked b.name.toList :=
    fun b word hword hname => Binding.IsPlaceholder.isMarked (d := .default)
      ⟨word.toList, isName_of_ascii hword, hname⟩
  have hmarked : ∀ b ∈ [type, id, name, unused], IsMarked b.name.toList := by
    simp only [List.forall_mem_cons]
    exact ⟨hplaceholder type "pIdType" (by decide) (by decide),
      hplaceholder id "pId" (by decide) (by decide),
      hplaceholder name "Name" (by decide) (by decide),
      hplaceholder unused "Unused" (by decide) (by decide), by simp⟩
  have hnames : ([type, id, name, unused].map Binding.name).Nodup := by decide
  exact ⟨hperm, hmarked, hnames, form_of_perm hperm hmarked hnames .numbered⟩

end RecordSql
