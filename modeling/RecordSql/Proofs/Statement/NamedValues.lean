import Mathlib.Data.List.Induction
import Mathlib.Data.List.Nodup
import RecordSql.Statement.NamedValues

/-!
# Values by name

What named values hold after they have been collected from a list of pairs: under each name the
value that came last.

* `get?_eq_some_of_mem`: an entry is the value under its name.
* `valueOf_ofList`, `names_ofList`: the values and the names of a list of pairs.
-/

namespace RecordSql

namespace NamedValues

/-- The value under a name, and null if there is none. -/
def valueOf (nv : NamedValues) (name : String) : Value :=
  (nv.get? name).getD .null

/-- The last value that a list of pairs has under a name, and null if it has none. -/
def lastOf (pairs : List (String × Value)) (name : String) : Value :=
  Value.firstOf pairs.reverse name

/-! ## Entries -/

theorem get?_eq_some_of_mem {nv : NamedValues} {e : String × Value} (he : e ∈ nv.entries) :
    nv.get? e.1 = some e.2 := by
  cases hf : nv.entries.find? fun f => f.1 == e.1 with
  | none => simpa using List.find?_eq_none.mp hf e he
  | some f =>
    have hname : f.1 = e.1 := by simpa using List.find?_some hf
    have hfe : f = e := List.inj_on_of_nodup_map nv.nodup (List.mem_of_find?_eq_some hf) he hname
    rw [get?, hf, hfe]
    rfl

theorem valueOf_of_mem {nv : NamedValues} {e : String × Value} (he : e ∈ nv.entries) :
    nv.valueOf e.1 = e.2 := by
  rw [valueOf, get?_eq_some_of_mem he]
  rfl

theorem contains_eq_true_iff {nv : NamedValues} {name : String} :
    nv.contains name = true ↔ name ∈ nv.names := by
  simp [contains, names, namesOf]

/-! ## Collecting pairs -/

theorem find?_put (name other : String) (value : Value) (entries : List (String × Value)) :
    ((put name value entries).find? fun e => e.1 == other) =
      if name = other then some (name, value) else entries.find? fun e => e.1 == other := by
  induction entries with
  | nil => by_cases h : name = other <;> simp [put, h]
  | cons e rest ih =>
    rw [put]
    by_cases he : e.1 = name
    · by_cases h : name = other
      · simp [he, h]
      · simp [he, h]
    · rw [if_neg he, List.find?_cons, List.find?_cons, ih]
      by_cases h : name = other
      · have : ¬ (e.1 == other) = true := by
          rw [beq_iff_eq, ← h]
          exact he
        simp [h, this]
      · simp [h]

theorem get?_insert (name other : String) (value : Value) (nv : NamedValues) :
    (nv.insert name value).get? other = if name = other then some value else nv.get? other := by
  rw [get?, insert, find?_put]
  by_cases h : name = other <;> simp [h, get?]

theorem names_insert (name : String) (value : Value) (nv : NamedValues) :
    (nv.insert name value).names =
      if name ∈ nv.names then nv.names else nv.names ++ [name] :=
  names_put name value nv.entries

theorem get?_foldl_insert (pairs : List (String × Value)) (nv : NamedValues) (name : String) :
    (pairs.foldl (fun nv p => nv.insert p.1 p.2) nv).get? name =
      ((pairs.reverse.find? fun p => p.1 == name).map Prod.snd).or (nv.get? name) := by
  induction pairs generalizing nv with
  | nil => rfl
  | cons p rest ih =>
    rw [List.foldl_cons, ih, get?_insert, List.reverse_cons, List.find?_append]
    cases hf : rest.reverse.find? fun p => p.1 == name with
    | some q => rfl
    | none =>
      by_cases h : p.1 = name
      · simp [h]
      · simp [h]

/-- The value under a name is the last one that the pairs give it. -/
theorem valueOf_ofList (pairs : List (String × Value)) (name : String) :
    (ofList pairs).valueOf name = lastOf pairs name := by
  rw [valueOf, ofList, get?_foldl_insert, lastOf, Value.firstOf]
  congr 1
  exact Option.or_none

/-- The last of some pairs is inserted last. -/
theorem ofList_concat (pairs : List (String × Value)) (p : String × Value) :
    ofList (pairs ++ [p]) = (ofList pairs).insert p.1 p.2 := by
  rw [ofList, List.foldl_append]
  rfl

/-- The names are those of the pairs, each where it first comes. -/
theorem names_ofList (pairs : List (String × Value)) :
    (ofList pairs).names = (pairs.map Prod.fst).eraseDups := by
  induction pairs using List.reverseRecOn with
  | nil => rfl
  | append_singleton pairs p ih =>
    rw [ofList_concat, names_insert, ih, List.map_append, List.eraseDups_append]
    by_cases h : p.1 ∈ pairs.map Prod.fst
    · simp [h, List.removeAll]
    · simp [h, List.removeAll, List.eraseDups_cons]

theorem mem_names_ofList {pairs : List (String × Value)} {name : String} :
    name ∈ (ofList pairs).names ↔ name ∈ pairs.map Prod.fst := by
  rw [names_ofList, List.mem_eraseDups]

theorem isEmpty_ofList (pairs : List (String × Value)) :
    (ofList pairs).isEmpty = pairs.isEmpty := by
  have hnames : (ofList pairs).isEmpty = (ofList pairs).names.isEmpty := by
    simp [isEmpty, names, namesOf]
  cases pairs with
  | nil => rfl
  | cons p rest =>
    have hmem : p.1 ∈ (ofList (p :: rest)).names := mem_names_ofList.mpr (by simp)
    rw [hnames, List.isEmpty_cons, List.isEmpty_eq_false_iff]
    exact List.ne_nil_of_mem hmem

end NamedValues

end RecordSql
