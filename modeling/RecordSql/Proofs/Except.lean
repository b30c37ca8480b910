import Mathlib.Data.List.Forall2

/-!
# Results and failures

What may fail can be changed, chained, and done for each item of a list, one after the other until
one fails.

* `mapM_eq_ok_iff`, `mapM_eq_error_iff`: the results are those of all items, or the failure is that
  of the first item that fails.
-/

namespace RecordSql

variable {ε α β : Type}

theorem toOption_eq_some_iff {r : Except ε α} {a : α} : r.toOption = some a ↔ r = .ok a := by
  cases r <;> simp [Except.toOption]

theorem map_eq_ok_iff {r : Except ε α} {f : α → β} {b : β} :
    r.map f = .ok b ↔ ∃ a, r = .ok a ∧ f a = b := by
  cases r <;> simp [Except.map]

theorem map_eq_error_iff {f : α → β} {r : Except ε α} {e : ε} :
    r.map f = .error e ↔ r = .error e := by
  cases r <;> simp [Except.map]

theorem mapError_eq_ok_iff {ε' : Type} {f : ε → ε'} {r : Except ε α} {a : α} :
    r.mapError f = .ok a ↔ r = .ok a := by
  cases r <;> simp [Except.mapError]

theorem mapError_eq_error_iff {ε' : Type} {f : ε → ε'} {r : Except ε α} {e' : ε'} :
    r.mapError f = .error e' ↔ ∃ e, r = .error e ∧ f e = e' := by
  cases r <;> simp [Except.mapError]

theorem map_mapError {ε' : Type} (f : α → β) (g : ε → ε') (r : Except ε α) :
    (r.mapError g).map f = (r.map f).mapError g := by
  cases r <;> rfl

theorem bind_eq_ok_iff {r : Except ε α} {f : α → Except ε β} {b : β} :
    r >>= f = .ok b ↔ ∃ a, r = .ok a ∧ f a = .ok b := by
  cases r <;> simp [bind, Except.bind]

theorem bind_eq_error_iff {r : Except ε α} {f : α → Except ε β} {e : ε} :
    r >>= f = .error e ↔ r = .error e ∨ ∃ a, r = .ok a ∧ f a = .error e := by
  cases r <;> simp [bind, Except.bind]

/-! ## One item after the other -/

theorem mapM_eq_ok_iff {f : α → Except ε β} {xs : List α} {ys : List β} :
    xs.mapM f = .ok ys ↔ List.Forall₂ (fun x y => f x = .ok y) xs ys := by
  induction xs generalizing ys with
  | nil => cases ys <;> simp [pure, Except.pure]
  | cons x xs ih =>
    simp only [List.mapM_cons, bind_eq_ok_iff, ih, List.forall₂_cons_left_iff]
    constructor
    · rintro ⟨y, hy, rest, hrest, h⟩
      obtain rfl := Except.ok.inj h
      exact ⟨y, rest, hy, hrest, rfl⟩
    · rintro ⟨y, rest, hy, hrest, rfl⟩
      exact ⟨y, hy, rest, hrest, rfl⟩

/-- The first item of the list that fails does so with the error. -/
def FirstFails (f : α → Except ε β) (xs : List α) (e : ε) : Prop :=
  ∃ before x after, xs = before ++ x :: after ∧ (∀ y ∈ before, ∃ z, f y = .ok z) ∧ f x = .error e

theorem firstFails_nil {f : α → Except ε β} {e : ε} : ¬ FirstFails f [] e := by
  rintro ⟨before, x, after, h, -⟩
  simp at h

theorem firstFails_cons_iff {f : α → Except ε β} {x : α} {xs : List α} {e : ε} :
    FirstFails f (x :: xs) e ↔ f x = .error e ∨ (∃ y, f x = .ok y) ∧ FirstFails f xs e := by
  constructor
  · rintro ⟨before, y, after, h, hbefore, hy⟩
    cases before with
    | nil =>
      obtain ⟨rfl, -⟩ := List.cons.inj h
      exact .inl hy
    | cons z before =>
      obtain ⟨rfl, rfl⟩ := List.cons.inj h
      rw [List.forall_mem_cons] at hbefore
      exact .inr ⟨hbefore.1, before, y, after, rfl, hbefore.2, hy⟩
  · rintro (hx | ⟨hx, before, y, after, rfl, hbefore, hy⟩)
    · exact ⟨[], x, xs, rfl, by simp, hx⟩
    · exact ⟨x :: before, y, after, rfl, List.forall_mem_cons.mpr ⟨hx, hbefore⟩, hy⟩

theorem mapM_eq_error_iff {f : α → Except ε β} {xs : List α} {e : ε} :
    xs.mapM f = .error e ↔ FirstFails f xs e := by
  induction xs with
  | nil => exact iff_of_false nofun firstFails_nil
  | cons x xs ih =>
    simp only [List.mapM_cons, bind_eq_error_iff, ih, firstFails_cons_iff]
    refine or_congr_right ⟨?_, ?_⟩
    · rintro ⟨y, hy, hrest | ⟨rest, -, h⟩⟩
      · exact ⟨⟨y, hy⟩, hrest⟩
      · cases h
    · rintro ⟨⟨y, hy⟩, hrest⟩
      exact ⟨y, hy, .inl hrest⟩

end RecordSql
