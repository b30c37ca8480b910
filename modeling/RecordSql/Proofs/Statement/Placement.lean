import Mathlib.Data.List.Sort
import RecordSql.Proofs.Statement.Template

/-!
# Placement of values

Bindings look for their places in the finished text, one after the other. For the text of a
well-formed template this search comes to the same as filling the places from the left, each with
the first binding of its name that no place before it has taken.

* `place?_named`: a name is found at the first free place of that name.
* `assign_perm`: taking places in the order of the bindings and taking bindings in the order of the
  places give the same claims.
* `positional?_eq`: the positional form of a statement whose places can all be filled.
-/

namespace RecordSql

open Text Positional

/-! ## Specification -/

namespace Template

/-- The values for places of these names, from left to right: each takes the first binding of its
    name that is left. Nothing is returned if a name has no binding left. -/
def fill : List (List Char) → List Binding → Option (List Value)
  | [], _ => some []
  | name :: names, bindings => do
    let b ← bindings.find? fun b => b.name.toList = name
    let values ← fill names (bindings.eraseP fun b => b.name.toList = name)
    return b.value :: values

/-- The places with the positions at which their names start, if the text starts at `pos`. -/
def starts (d : Dialect) : (pos : Nat) → Template → List (Nat × Place)
  | _, [] => []
  | pos, .text s :: rest => starts d (pos + s.length) rest
  | pos, .place p :: rest => (pos, p) :: starts d (pos + (p.name d).length) rest

end Template

open Template

/-! ## Occurrences of a name -/

theorem occurrences_skip (name : List Char) {k : Nat} {cs : List Char} (h : k ≤ cs.length)
    (pos : Nat) : occurrences name k pos cs = occurrences name 0 (pos + k) (cs.drop k) := by
  induction k generalizing pos cs with
  | zero => simp
  | succ k ih =>
    cases cs with
    | nil => simp at h
    | cons c cs =>
      rw [occurrences, ih (by simpa using h), List.drop_succ_cons]
      congr 1
      omega

theorem occurrences_append {m : Char} {cs : List Char} (h : m ∉ cs) (w ds : List Char)
    (pos : Nat) :
    occurrences (m :: w) 0 pos (cs ++ ds) = occurrences (m :: w) 0 (pos + cs.length) ds := by
  induction cs generalizing pos with
  | nil => simp
  | cons c cs ih =>
    simp only [List.mem_cons, not_or] at h
    have hpre : ¬ (m :: w).isPrefixOf (c :: (cs ++ ds)) = true := by
      rw [List.isPrefixOf_iff_prefix, List.cons_prefix_cons]
      exact fun hp => h.1 hp.1
    rw [List.cons_append, occurrences, if_neg hpre, ih h.2, List.length_cons]
    congr 1
    omega

/-- A word that the text goes on with ends before the text breaks. -/
theorem prefix_append_iff {w : List Char} (hw : ∀ ch ∈ w, isWordChar ch = true)
    {ds : List Char} (hds : continuesName ds = false) (u : List Char) :
    w <+: u ++ ds ↔ w <+: u := by
  refine ⟨fun h => ?_, fun h => h.trans (List.prefix_append u ds)⟩
  induction u generalizing w with
  | nil =>
    cases w with
    | nil => exact List.nil_prefix
    | cons a w =>
      obtain ⟨rest, rfl⟩ := h
      have := hw a (by simp)
      simp [continuesName, this] at hds
  | cons b u ih =>
    cases w with
    | nil => exact List.nil_prefix
    | cons a w =>
      obtain ⟨rfl, htail⟩ := List.cons_prefix_cons.mp h
      have hrest := ih (fun ch hch => hw ch (List.mem_cons_of_mem a hch)) htail
      exact List.cons_prefix_cons.mpr ⟨rfl, hrest⟩

/-- A word at the start of another stands whole exactly if it is all of it. -/
theorem continuesName_drop_iff {w u : List Char} (hpre : w <+: u)
    (hu : ∀ ch ∈ u, isWordChar ch = true) {ds : List Char} (hds : continuesName ds = false) :
    continuesName ((u ++ ds).drop w.length) = false ↔ u = w := by
  obtain ⟨more, rfl⟩ := hpre
  rw [List.append_assoc, List.drop_left]
  cases more with
  | nil => simp [hds]
  | cons ch more =>
    have := hu ch (by simp)
    simp [continuesName, this]

/-- Within the name of a place, a name can only be found at the start. -/
theorem occurrences_name {d : Dialect} {w u : List Char} (hw : ∀ ch ∈ w, isWordChar ch = true)
    (hu : ∀ ch ∈ u, isWordChar ch = true) {ds : List Char} (hds : continuesName ds = false)
    (pos : Nat) :
    occurrences (d.marker :: w) 0 pos (d.marker :: u ++ ds) =
      (if w <+: u then [pos] else []) ++
        occurrences (d.marker :: w) 0 (pos + (u.length + 1)) ds := by
  have hmem : d.marker ∉ u := d.marker_notMem_of_isWordChar hu
  rw [List.cons_append, occurrences]
  simp only [List.isPrefixOf_iff_prefix, List.cons_prefix_cons, true_and,
    prefix_append_iff hw hds]
  split_ifs with hpre
  · -- the search goes on behind the name found, in the rest of the word
    have hlen := hpre.length_le
    have hdrop : d.marker ∉ u.drop w.length := fun h => hmem (List.mem_of_mem_drop h)
    rw [List.length_cons, Nat.add_sub_cancel, occurrences_skip _ (by simp; omega),
      List.drop_append_of_le_length hlen, occurrences_append hdrop, List.length_drop,
      List.singleton_append]
    congr 2
    omega
  · rw [occurrences_append hmem, List.nil_append]
    congr 1
    omega

/-! ## The places of a name -/

/-- The occurrences at which a name stands whole are the places of that name. -/
theorem whole_occurrences {d : Dialect} {t : Template} (ht : WellFormed d t) {w : List Char}
    (hw : ∀ ch ∈ w, isWordChar ch = true) (before : List Char) :
    ((occurrences (d.marker :: w) 0 before.length (named d t)).filter fun start =>
        !continuesName ((before ++ named d t).drop (start + (d.marker :: w).length))) =
      ((starts d before.length t).filter fun e => e.2.word = w).map Prod.fst := by
  induction t generalizing before with
  | nil => rfl
  | cons piece t ih =>
    cases piece with
    | text s =>
      have := ih ht.2 (before ++ s.toList)
      rw [List.append_assoc, List.length_append, String.length_toList] at this
      rw [named, occurrences_append ht.1, String.length_toList, this, starts]
    | place p =>
      have hrest := ih ht.2.2 (before ++ p.name d)
      have hds := ht.2.1.continuesName_named d
      have hu := Place.isWordChar_word ht.1
      rw [List.append_assoc, List.length_append] at hrest
      rw [named, starts, List.filter_cons]
      by_cases hp : w <+: p.word
      · have hdrop : (before ++ (p.name d ++ named d t)).drop
            (before.length + (d.marker :: w).length) = (p.word ++ named d t).drop w.length := by
          rw [← List.drop_drop, List.drop_left]
          rfl
        have hwhole := continuesName_drop_iff hp hu hds
        rw [← hdrop] at hwhole
        rw [Place.name] at hwhole hrest ⊢
        rw [occurrences_name hw hu hds, if_pos hp, List.filter_append, List.filter_singleton]
        by_cases hword : p.word = w
        · subst hword
          rw [hwhole.mpr rfl]
          simpa using hrest
        · rw [eq_true_of_ne_false (mt hwhole.mp hword)]
          simpa [hword] using hrest
      · have hne : p.word ≠ w := by
          rintro rfl
          exact hp List.prefix_rfl
        rw [Place.name, occurrences_name hw hu hds, if_neg hp, List.nil_append]
        simpa [hne, Place.name] using hrest

/-- A name is found at the first free place of that name. -/
theorem place?_named {d : Dialect} {t : Template} (ht : WellFormed d t) {w : List Char}
    (hw : ∀ ch ∈ w, isWordChar ch = true) (taken : List Nat) :
    place? (named d t) (d.marker :: w) taken =
      ((starts d 0 t).find? fun e => !taken.contains e.1 && e.2.word = w).map Prod.fst := by
  have h := whole_occurrences ht hw []
  rw [List.length_nil, List.nil_append] at h
  rw [place?, if_neg (List.cons_ne_nil _ _)]
  calc (occurrences (d.marker :: w) 0 0 (named d t)).find? (fun start =>
        !taken.contains start &&
          !continuesName ((named d t).drop (start + (d.marker :: w).length)))
      = ((occurrences (d.marker :: w) 0 0 (named d t)).filter fun start =>
          !continuesName ((named d t).drop (start + (d.marker :: w).length))).find? fun start =>
            !taken.contains start := by
        rw [List.find?_filter]
        simp only [Bool.decide_and, Bool.decide_eq_true, Bool.and_comm]
    _ = (((starts d 0 t).filter fun e => e.2.word = w).map Prod.fst).find? fun start =>
            !taken.contains start := by
        simpa using congrArg (List.find? fun start => !taken.contains start) h
    _ = ((starts d 0 t).find? fun e => !taken.contains e.1 && e.2.word = w).map Prod.fst := by
        rw [List.find?_map, List.find?_filter]
        simp only [Bool.decide_and, Bool.decide_eq_true, Bool.and_comm, Function.comp_def]

/-! ## Claims -/

/-- The claims that bindings make on free places, given with their positions. -/
def assign (d : Dialect) : List (Nat × Place) → List Binding → List Claim
  | _, [] => []
  | free, b :: rest =>
    match free.find? fun e => e.2.name d = b.name.toList with
    | some e => ⟨e.1, b.name.length, b.value⟩ :: assign d (free.erase e) rest
    | none => assign d free rest

/-- The name of a binding is a marker and word characters. -/
def Binding.IsPlaceholder (d : Dialect) (b : Binding) : Prop :=
  ∃ w, (∀ ch ∈ w, isWordChar ch = true) ∧ b.name.toList = d.marker :: w

theorem le_of_mem_starts {d : Dialect} {t : Template} {pos : Nat} {e : Nat × Place}
    (h : e ∈ starts d pos t) : pos ≤ e.1 := by
  induction t generalizing pos with
  | nil => simp [starts] at h
  | cons piece t ih =>
    cases piece with
    | text s =>
      have := ih h
      omega
    | place p =>
      rcases List.mem_cons.mp h with rfl | h
      · exact le_rfl
      · have := ih h
        omega

theorem pairwise_starts (d : Dialect) (t : Template) (pos : Nat) :
    (starts d pos t).Pairwise fun e f => e.1 < f.1 := by
  induction t generalizing pos with
  | nil => exact List.Pairwise.nil
  | cons piece t ih =>
    cases piece with
    | text s => exact ih _
    | place p =>
      refine List.Pairwise.cons (fun e he => ?_) (ih _)
      have := le_of_mem_starts he
      simp only [Place.name, List.length_cons] at this
      omega

theorem eq_of_mem_starts {d : Dialect} {t : Template} {pos : Nat} {e f : Nat × Place}
    (he : e ∈ starts d pos t) (hf : f ∈ starts d pos t) (h : e.1 = f.1) : e = f := by
  have hnodup : ((starts d pos t).map Prod.fst).Nodup :=
    List.pairwise_map.mpr ((pairwise_starts d t pos).imp fun hlt => Nat.ne_of_lt hlt)
  exact List.inj_on_of_nodup_map hnodup he hf h

/-- Taking a place is erasing it from the free ones. -/
theorem filter_starts_cons {d : Dialect} {t : Template} {e : Nat × Place} (he : e ∈ starts d 0 t)
    (taken : List Nat) :
    ((starts d 0 t).filter fun f => !(e.1 :: taken).contains f.1) =
      ((starts d 0 t).filter fun f => !taken.contains f.1).erase e := by
  have hnodup : (starts d 0 t).Nodup :=
    (pairwise_starts d t 0).imp fun hlt heq => by simp [heq] at hlt
  rw [(hnodup.filter _).erase_eq_filter, List.filter_filter]
  refine List.filter_congr fun f hf => ?_
  have : f.1 = e.1 ↔ f = e := ⟨eq_of_mem_starts hf he, fun h => h ▸ rfl⟩
  by_cases h : f = e <;> simp [h, this]

theorem claims_named {d : Dialect} {t : Template} (ht : WellFormed d t) {bindings : List Binding}
    (hb : ∀ b ∈ bindings, b.IsPlaceholder d) (taken : List Nat) :
    claims (named d t) taken bindings =
      assign d ((starts d 0 t).filter fun e => !taken.contains e.1) bindings := by
  induction bindings generalizing taken with
  | nil => rfl
  | cons b rest ih =>
    obtain ⟨w, hw, hname⟩ := hb b (by simp)
    have hrest := ih fun x hx => hb x (by simp [hx])
    have hfind : ((starts d 0 t).filter fun e => !taken.contains e.1).find?
        (fun e => e.2.name d = b.name.toList) =
          (starts d 0 t).find? fun e => !taken.contains e.1 && e.2.word = w := by
      rw [List.find?_filter]
      simp [hname, Place.name]
    rw [claims, assign, hname, place?_named ht hw, ← hname, hfind]
    cases hf : (starts d 0 t).find? fun e => !taken.contains e.1 && e.2.word = w with
    | none => exact hrest taken
    | some e =>
      simp only [Option.map_some]
      rw [hrest, filter_starts_cons (List.mem_of_find?_eq_some hf)]

/-! ## The order of the places -/

theorem assign_nil (d : Dialect) (bindings : List Binding) : assign d [] bindings = [] := by
  induction bindings with
  | nil => rfl
  | cons b rest ih => simpa [assign] using ih

/-- The first free place goes to the first binding of its name, whatever else is claimed before. -/
theorem assign_cons_perm {d : Dialect} {e : Nat × Place} {free : List (Nat × Place)}
    {bindings : List Binding} {b : Binding}
    (hb : (bindings.find? fun b => b.name.toList = e.2.name d) = some b) :
    (assign d (e :: free) bindings).Perm
      (⟨e.1, (e.2.name d).length, b.value⟩ ::
        assign d free (bindings.eraseP fun b => b.name.toList = e.2.name d)) := by
  induction bindings generalizing free with
  | nil => simp at hb
  | cons c rest ih =>
    by_cases hc : c.name.toList = e.2.name d
    · simp only [List.find?_cons, hc, decide_true, Option.some.injEq] at hb
      subst hb
      simp [assign, hc, ← String.length_toList]
    · have hc' : ¬ e.2.name d = c.name.toList := fun h => hc h.symm
      simp only [List.find?_cons, hc, decide_false] at hb
      simp only [assign, List.find?_cons, hc', decide_false, List.eraseP_cons, hc,
        cond_false]
      cases hf : free.find? fun e => e.2.name d = c.name.toList with
      | none => exact ih hb
      | some f =>
        have hfname : f.2.name d = c.name.toList := by simpa using List.find?_some hf
        have hfe : e ≠ f := by
          rintro rfl
          exact hc' hfname
        simp only
        rw [List.erase_cons_tail (by simpa using hfe)]
        exact ((ih hb).cons _).trans (List.Perm.swap _ _ _)

/-- The claim on each place, in the order of the places. -/
def claimsOf (d : Dialect) (free : List (Nat × Place)) (values : List Value) : List Claim :=
  free.zipWith (fun e v => ⟨e.1, (e.2.name d).length, v⟩) values

theorem assign_perm {d : Dialect} {free : List (Nat × Place)} {bindings : List Binding}
    {values : List Value} (h : fill (free.map fun e => e.2.name d) bindings = some values) :
    (assign d free bindings).Perm (claimsOf d free values) := by
  induction free generalizing bindings values with
  | nil =>
    rw [assign_nil]
    exact List.Perm.nil
  | cons e free ih =>
    simp only [List.map_cons, fill, Option.bind_eq_bind, Option.bind_eq_some_iff, Option.pure_def,
      Option.some.injEq] at h
    obtain ⟨b, hb, rest, hrest, rfl⟩ := h
    exact (assign_cons_perm hb).trans ((ih hrest).cons _)

theorem length_fill {names : List (List Char)} {bindings : List Binding} {values : List Value}
    (h : fill names bindings = some values) : values.length = names.length := by
  induction names generalizing bindings values with
  | nil => simp_all [fill]
  | cons name names ih =>
    simp only [fill, Option.bind_eq_bind, Option.bind_eq_some_iff, Option.pure_def,
      Option.some.injEq] at h
    obtain ⟨b, -, rest, hrest, rfl⟩ := h
    simp [ih hrest]

theorem map_snd_starts (d : Dialect) (t : Template) (pos : Nat) :
    (starts d pos t).map Prod.snd = places t := by
  induction t generalizing pos with
  | nil => rfl
  | cons piece t ih => cases piece <;> simp [starts, places, ih]

theorem pairwise_claimsOf {d : Dialect} {free : List (Nat × Place)}
    (h : free.Pairwise fun e f => e.1 < f.1) (values : List Value) :
    (claimsOf d free values).Pairwise fun a b => a.start < b.start := by
  induction free generalizing values with
  | nil => simp [claimsOf]
  | cons e free ih =>
    cases values with
    | nil => simp [claimsOf]
    | cons v values =>
      obtain ⟨hlt, hfree⟩ := List.pairwise_cons.mp h
      refine List.Pairwise.cons (fun c hc => ?_) (ih hfree values)
      obtain ⟨i, hi, rfl⟩ := List.mem_iff_getElem.mp hc
      rw [List.getElem_zipWith]
      exact hlt _ (List.getElem_mem _)

theorem start_le_of_mem_claimsOf {d : Dialect} {t : Template} {pos : Nat} {values : List Value}
    {c : Claim} (h : c ∈ claimsOf d (starts d pos t) values) : pos ≤ c.start := by
  obtain ⟨i, hi, rfl⟩ := List.mem_iff_getElem.mp h
  simp only [claimsOf, List.getElem_zipWith]
  exact le_of_mem_starts (List.getElem_mem _)

theorem map_value_claimsOf {d : Dialect} {free : List (Nat × Place)} {values : List Value}
    (h : values.length = free.length) : (claimsOf d free values).map Claim.value = values := by
  induction free generalizing values with
  | nil => simp_all [claimsOf]
  | cons e free ih =>
    cases values with
    | nil => simp at h
    | cons v values => simpa [claimsOf] using ih (by simpa using h)

theorem sortClaims_eq_insertionSort (cs : List Claim) :
    sortClaims cs = cs.insertionSort fun a b => a.start ≤ b.start := by
  have hinsert : ∀ (c : Claim) (l : List Claim),
      insertClaim c l = l.orderedInsert (fun a b => a.start ≤ b.start) c := by
    intro c l
    induction l with
    | nil => rfl
    | cons a l ih => rw [insertClaim, List.orderedInsert, ih]
  rw [sortClaims, List.insertionSort, funext fun c => funext (hinsert c)]

/-- The sorted claims are the claims in the order of the places. -/
theorem sortClaims_of_perm {cs sorted : List Claim} (h : cs.Perm sorted)
    (hsorted : sorted.Pairwise fun a b => a.start < b.start) : sortClaims cs = sorted := by
  rw [sortClaims_eq_insertionSort]
  have hperm := (List.perm_insertionSort (fun a b : Claim => a.start ≤ b.start) cs).trans h
  have hle : sorted.Pairwise fun a b => a.start ≤ b.start := hsorted.imp Nat.le_of_lt
  have hnodup : (sorted.map Claim.start).Nodup :=
    List.pairwise_map.mpr (hsorted.imp Nat.ne_of_lt)
  refine hperm.eq_of_pairwise ?_ ?_ hle
  · intro a b ha hb hab hba
    exact List.inj_on_of_nodup_map hnodup (hperm.mem_iff.mp ha) hb (Nat.le_antisymm hab hba)
  · have : IsTrans Claim fun a b => a.start ≤ b.start := ⟨fun _ _ _ => Nat.le_trans⟩
    have : Std.Total fun a b : Claim => a.start ≤ b.start := ⟨fun _ _ => Nat.le_total _ _⟩
    exact List.pairwise_insertionSort _ cs

/-! ## Replacement -/

theorem replace_append (style : MarkerStyle) {n cursor : Nat} {cs : List Claim} {before : List Char}
    (h : ∀ c ∈ cs, cursor + before.length ≤ c.start) (after : List Char) :
    replace style n cursor cs (before ++ after) =
      (replace style n (cursor + before.length) cs after).map (before ++ ·) := by
  cases cs with
  | nil => rfl
  | cons c rest =>
    have hc := h c (by simp)
    have hgap : c.start - cursor = before.length + (c.start - (cursor + before.length)) := by omega
    rw [replace, replace, if_neg (by omega), if_neg (by omega)]
    simp only [hgap, Nat.add_assoc, ← List.drop_drop, List.drop_left, List.take_length_add_append]
    cases replace style (n + 1) (c.start + c.length) rest
      ((after.drop (c.start - (cursor + before.length))).drop c.length) <;> simp

theorem replace_claimsOf (style : MarkerStyle) (d : Dialect) {t : Template} {values : List Value}
    (h : values.length = t.places.length) (n cursor : Nat) :
    replace style n cursor (claimsOf d (starts d cursor t) values) (named d t) =
      some (positional style n t) := by
  induction t generalizing values n cursor with
  | nil => simp [starts, claimsOf, replace, named, positional]
  | cons piece t ih =>
    cases piece with
    | text s =>
      have hle : ∀ c ∈ claimsOf d (starts d (cursor + s.length) t) values,
          cursor + s.toList.length ≤ c.start := by
        intro c hc
        rw [String.length_toList]
        exact start_le_of_mem_claimsOf hc
      rw [named, starts, replace_append style hle, String.length_toList, ih h]
      rfl
    | place p =>
      cases values with
      | nil => simp [places] at h
      | cons v values =>
        have hlength : values.length = (places t).length := by simpa [places] using h
        have hrest := ih hlength (n + 1) (cursor + (p.name d).length)
        rw [starts, claimsOf, List.zipWith_cons_cons, ← claimsOf, replace, named, positional,
          if_neg (Nat.lt_irrefl _)]
        simp only [Nat.sub_self, Nat.zero_add, List.drop_left, hrest]
        rfl

/-- If the bindings claim each place of a template, in whichever order, then the places have become
    markers in the positional form, and the values are in the order of the places. -/
theorem positional?_of_claims {d : Dialect} {t : Template} {s : Statement}
    (hsql : s.sql.toList = named d t) {values : List Value}
    (hlength : values.length = t.places.length)
    (hclaims : (claims s.sql.toList [] s.bindings).Perm (claimsOf d (starts d 0 t) values))
    (style : MarkerStyle) :
    s.positional? style = some ⟨String.ofList (positional style 0 t), values⟩ := by
  have hsorted : sortClaims (claims s.sql.toList [] s.bindings) =
      claimsOf d (starts d 0 t) values :=
    sortClaims_of_perm hclaims (pairwise_claimsOf (pairwise_starts d t 0) values)
  have hvalues : values.length = (starts d 0 t).length := by
    rw [hlength, ← map_snd_starts d t 0, List.length_map]
  simp only [Statement.positional?, hsorted]
  rw [hsql, replace_claimsOf style d hlength, map_value_claimsOf hvalues]
  rfl

/-- **Positional form.** If every place of a well-formed template can be filled from the bindings of
    a statement, then the statement has a positional form: the places of the template have become
    markers, and the values are those that fill the places. -/
theorem positional?_eq {d : Dialect} {t : Template} (ht : WellFormed d t) {s : Statement}
    (hsql : s.sql.toList = named d t) (hb : ∀ b ∈ s.bindings, b.IsPlaceholder d)
    {values : List Value} (hfill : fill (t.places.map (Place.name d)) s.bindings = some values)
    (style : MarkerStyle) :
    s.positional? style = some ⟨String.ofList (positional style 0 t), values⟩ := by
  have hlength : values.length = t.places.length := by simpa using length_fill hfill
  have hstarts : (starts d 0 t).map (fun e => e.2.name d) = t.places.map (Place.name d) := by
    rw [← map_snd_starts d t 0, List.map_map]
    rfl
  have hclaims : claims s.sql.toList [] s.bindings = assign d (starts d 0 t) s.bindings := by
    rw [hsql, claims_named ht hb]
    simp
  rw [← hstarts] at hfill
  exact positional?_of_claims hsql hlength (hclaims ▸ assign_perm hfill) style

end RecordSql
