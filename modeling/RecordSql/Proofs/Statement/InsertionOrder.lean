import Mathlib.Data.Finset.Card
import RecordSql.Proofs.Statement.NamedValues

/-!
# The order of named values

Named values are collected from pairs, and further ones are inserted, in any mixture. What they hold
depends only on the pairs that they are given: the names in the order in which they first come, each
with the value that comes last.

* `IsLast`, `get?_ofList_eq_some_iff`: the value under a name.
* `entries_eq`, `ext_get?`: the names and the values under them are all that there is.
* `Construction.result_eq`: the mixture does not matter.
* `order_of_pairs`: what a construction results in, and when two of them result in the same.
-/

namespace RecordSql

namespace NamedValues

/-! ## The last value of a name -/

/-- The value comes last among those that the pairs have under the name. -/
def IsLast (pairs : List (String × Value)) (name : String) (value : Value) : Prop :=
  ∃ before after, pairs = before ++ (name, value) :: after ∧ name ∉ namesOf after

theorem not_isLast_nil (name : String) (value : Value) : ¬ IsLast [] name value := by
  rintro ⟨before, after, h, -⟩
  exact List.append_ne_nil_of_right_ne_nil before (List.cons_ne_nil _ after) h.symm

/-- Of one more pair, the value comes last under its name; the other names keep theirs. -/
theorem isLast_concat {pairs : List (String × Value)} {p : String × Value} {name : String}
    {value : Value} : IsLast (pairs ++ [p]) name value ↔
      if p.1 = name then p.2 = value else IsLast pairs name value := by
  constructor
  · rintro ⟨before, after, h, hafter⟩
    obtain rfl | ⟨rest, q, rfl⟩ := after.eq_nil_or_concat
    · obtain ⟨-, hp⟩ := List.append_inj' h rfl
      obtain rfl : p = (name, value) := by simpa using hp
      simp
    · rw [List.concat_eq_append, ← List.cons_append, ← List.append_assoc] at h
      obtain ⟨rfl, hq⟩ := List.append_inj' h rfl
      obtain rfl : p = q := by simpa using hq
      have hname : p.1 ≠ name ∧ name ∉ namesOf rest := by
        simpa [namesOf, not_or, eq_comm, and_comm] using hafter
      rw [if_neg hname.1]
      exact ⟨before, rest, rfl, hname.2⟩
  · intro h
    split_ifs at h with hname
    · subst hname h
      exact ⟨pairs, [], rfl, List.not_mem_nil⟩
    · obtain ⟨before, after, rfl, hafter⟩ := h
      refine ⟨before, after ++ [p], by simp, ?_⟩
      simpa [namesOf, not_or, eq_comm] using And.intro hafter hname

/-! ## Entries -/

theorem mem_entries_iff {nv : NamedValues} {name : String} {value : Value} :
    (name, value) ∈ nv.entries ↔ nv.get? name = some value := by
  refine ⟨get?_eq_some_of_mem (e := (name, value)), fun h => ?_⟩
  obtain ⟨e, he, rfl⟩ := Option.map_eq_some_iff.mp h
  obtain rfl : e.1 = name := by simpa using List.find?_some he
  exact List.mem_of_find?_eq_some he

/-- The entries are the names with the values under them. -/
theorem entries_eq (nv : NamedValues) :
    nv.entries = nv.names.map fun name => (name, nv.valueOf name) := by
  rw [names, namesOf, List.map_map]
  refine (List.map_id nv.entries).symm.trans (List.map_congr_left fun e he => ?_)
  rw [Function.comp_apply, valueOf_of_mem he]
  rfl

theorem ext_get? {nv other : NamedValues} (hnames : nv.names = other.names)
    (hget : ∀ name, nv.get? name = other.get? name) : nv = other := by
  have hentries : nv.entries = other.entries := by
    rw [entries_eq, entries_eq, hnames]
    simp only [valueOf, hget]
  obtain ⟨entries, hnodup⟩ := nv
  obtain ⟨others, hothers⟩ := other
  obtain rfl : entries = others := hentries
  rfl

/-! ## Collecting pairs -/

theorem get?_ofList_eq_some_iff {pairs : List (String × Value)} {name : String} {value : Value} :
    (ofList pairs).get? name = some value ↔ IsLast pairs name value := by
  induction pairs using List.reverseRecOn with
  | nil => exact iff_of_false (Option.some_ne_none value).symm (not_isLast_nil name value)
  | append_singleton pairs p ih =>
    rw [ofList_concat, get?_insert, isLast_concat]
    split_ifs with hname
    · exact Option.some_inj
    · exact ih

/-- There are as many values as the pairs have names. -/
theorem size_ofList (pairs : List (String × Value)) :
    (ofList pairs).size = (namesOf pairs).toFinset.card := by
  have hsize : (ofList pairs).size = (ofList pairs).names.length :=
    (List.length_map Prod.fst).symm
  have hnames : (namesOf pairs).toFinset = (ofList pairs).names.toFinset := by
    ext name
    rw [List.mem_toFinset, List.mem_toFinset]
    exact mem_names_ofList.symm
  rw [hsize, hnames]
  exact (List.toFinset_card_of_nodup (ofList pairs).nodup).symm

/-- Two lists of pairs are collected to the same just if their names first come in one order and
    each has one last value. -/
theorem ofList_eq_iff {pairs others : List (String × Value)} :
    ofList pairs = ofList others ↔
      (namesOf pairs).eraseDups = (namesOf others).eraseDups ∧
        ∀ name value, IsLast pairs name value ↔ IsLast others name value := by
  have hnames : ∀ ps, (ofList ps).names = (namesOf ps).eraseDups := names_ofList
  constructor
  · intro h
    refine ⟨?_, fun name value => ?_⟩
    · rw [← hnames, ← hnames, h]
    · rw [← get?_ofList_eq_some_iff, ← get?_ofList_eq_some_iff, h]
  · rintro ⟨horder, hlast⟩
    refine ext_get? ?_ fun name => Option.ext fun value => ?_
    · rw [hnames, hnames, horder]
    · rw [get?_ofList_eq_some_iff, get?_ofList_eq_some_iff]
      exact hlast name value

/-! ## Constructions -/

/-- A way in which named values are made. -/
inductive Construction
  | empty
  | collect (pairs : List (String × Value))
  | insert (before : Construction) (name : String) (value : Value)

namespace Construction

/-- The named values that are made. -/
def result : Construction → NamedValues
  | empty => .empty
  | collect pairs => .ofList pairs
  | insert before name value => before.result.insert name value

/-- The pairs that are given, in order. -/
def pairs : Construction → List (String × Value)
  | empty => []
  | collect pairs => pairs
  | insert before name value => before.pairs ++ [(name, value)]

/-- However named values are made, they are collected from the pairs that are given. -/
theorem result_eq (c : Construction) : c.result = ofList c.pairs := by
  induction c with
  | empty => rfl
  | collect pairs => rfl
  | insert before name value ih => rw [pairs, ofList_concat, result, ih]

end Construction

/-- **The order of named values.** For all named values, made in any way,

    - the names are distinct: those of the given pairs in the order in which they first come;
    - there are as many values as there are names among the pairs;
    - there is a value under a name just if a pair has the name, and it is the last such value;
    - they equal those that are made in another way just if the names first come in one order and
      each has one last value. -/
theorem order_of_pairs (c : Construction) :
    c.result.names.Nodup ∧
    c.result.names = (namesOf c.pairs).eraseDups ∧
    c.result.size = (namesOf c.pairs).toFinset.card ∧
    (∀ name, c.result.contains name = true ↔ name ∈ namesOf c.pairs) ∧
    (∀ name value, c.result.get? name = some value ↔ IsLast c.pairs name value) ∧
    (∀ name value, (name, value) ∈ c.result.entries ↔ IsLast c.pairs name value) ∧
    ∀ other : Construction, c.result = other.result ↔
      (namesOf c.pairs).eraseDups = (namesOf other.pairs).eraseDups ∧
        ∀ name value, IsLast c.pairs name value ↔ IsLast other.pairs name value := by
  rw [c.result_eq]
  refine ⟨(ofList c.pairs).nodup, names_ofList c.pairs, size_ofList c.pairs, fun name => ?_,
    fun name value => get?_ofList_eq_some_iff, fun name value => ?_, fun other => ?_⟩
  · rw [contains_eq_true_iff]
    exact mem_names_ofList
  · rw [mem_entries_iff, get?_ofList_eq_some_iff]
  · rw [other.result_eq]
    exact ofList_eq_iff

/-- A name that is given again keeps its place. -/
example : (Construction.insert (.collect [("Name", .text "Walking"), ("Id", .int 3)])
    "Name" (.text "Running")).result.entries = [("Name", .text "Running"), ("Id", .int 3)] := by
  decide

end NamedValues

end RecordSql
