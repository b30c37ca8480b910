import RecordSql.Value.Basic

/-!
# Named values

The lists that filters and assignments are given as: values under distinct names, in the order in
which the names first came. Giving a name again replaces its value and keeps its place.

* `names_put`: putting a value adds a name at the end exactly if the name is new.
-/

namespace RecordSql

namespace NamedValues

/-- The names of a list of entries. -/
def namesOf (entries : List (String × Value)) : List String :=
  entries.map Prod.fst

/-- Replaces the value under a name, or adds an entry at the end. -/
def put (name : String) (value : Value) : List (String × Value) → List (String × Value)
  | [] => [(name, value)]
  | e :: rest => if e.1 = name then (name, value) :: rest else e :: put name value rest

theorem names_put (name : String) (value : Value) (entries : List (String × Value)) :
    namesOf (put name value entries) =
      if name ∈ namesOf entries then namesOf entries else namesOf entries ++ [name] := by
  induction entries with
  | nil => rfl
  | cons e rest ih =>
    rw [put]
    split
    · next h => simp [namesOf, h]
    · next h =>
      simp only [namesOf, List.map_cons, List.mem_cons] at ih ⊢
      rw [ih]
      have : name ≠ e.1 := fun hn => h hn.symm
      by_cases hm : name ∈ rest.map Prod.fst <;> simp [this, hm]

theorem nodup_put {name : String} {value : Value} {entries : List (String × Value)}
    (h : (namesOf entries).Nodup) : (namesOf (put name value entries)).Nodup := by
  rw [names_put]
  split
  · exact h
  · next hn =>
    rw [List.nodup_append]
    exact ⟨h, by simp, fun a ha b hb => by
      rw [List.mem_singleton] at hb
      intro hab
      exact hn (hb ▸ hab ▸ ha)⟩

end NamedValues

/-- Values under distinct names. -/
structure NamedValues where
  entries : List (String × Value) := []
  nodup : (NamedValues.namesOf entries).Nodup := by exact List.nodup_nil
  deriving DecidableEq

/-- The values that rows are selected by. -/
abbrev Filters := NamedValues

/-- The values that are bound to placeholders. -/
abbrev Parameters := NamedValues

namespace NamedValues

/-- No values. -/
def empty : NamedValues := {}

/-- Adds a value, or replaces the one under its name. Model of `Filters::insert` and
    `Parameters::add`. -/
def insert (name : String) (value : Value) (nv : NamedValues) : NamedValues :=
  ⟨put name value nv.entries, nodup_put nv.nodup⟩

/-- The values of a list of pairs, inserted in order. Model of the `from_iter` of `Filters` and
    `Parameters`. -/
def ofList (pairs : List (String × Value)) : NamedValues :=
  pairs.foldl (fun nv p => nv.insert p.1 p.2) empty

/-- The names in order. -/
def names (nv : NamedValues) : List String :=
  namesOf nv.entries

/-- Whether there is a value under a name. Model of `Parameters::contains`. -/
def contains (nv : NamedValues) (name : String) : Bool :=
  nv.entries.any fun e => e.1 == name

/-- The value under a name. Model of `Parameters::get`. -/
def get? (nv : NamedValues) (name : String) : Option Value :=
  (nv.entries.find? fun e => e.1 == name).map Prod.snd

/-- The number of values. -/
def size (nv : NamedValues) : Nat :=
  nv.entries.length

/-- Whether there are no values. -/
def isEmpty (nv : NamedValues) : Bool :=
  nv.entries.isEmpty

end NamedValues

/-- The first value that a list of pairs has under a name, and null if it has none. Model of
    `lookup`. -/
def Value.firstOf (pairs : List (String × Value)) (name : String) : Value :=
  ((pairs.find? fun p => p.1 == name).map Prod.snd).getD .null

end RecordSql
