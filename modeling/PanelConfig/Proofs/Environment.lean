import PanelConfig.Environment
import PanelConfig.Lookup

/-! What the variables are after one of them is set or unset. -/

namespace PanelConfig.Environment

theorem find?_unset (e : Environment) (name k : String) :
    (e.unset name).find? k = if k = name then none else e.find? k := by
  rw [find?, unset]
  split
  · next h => rw [h, lookup_filter_self]
  · next h => rw [lookup_filter_ne h, find?]

theorem find?_set (e : Environment) (name v k : String) :
    (e.set name v).find? k = if k = name then some v else e.find? k := by
  rw [find?, set, List.lookup_cons]
  split
  · next h => rw [if_pos (by simpa using h)]
  · next h =>
    have hk : k ≠ name := by simpa using h
    rw [if_neg hk]
    exact (find?_unset e name k).trans (if_neg hk)

theorem value_unset (e : Environment) (name : String) (s : Setting) :
    (e.unset name).value s = if s.variableName = name then "" else e.value s := by
  rw [value, find?_unset]
  split
  · rfl
  · rfl

theorem value_set (e : Environment) (name v : String) (s : Setting) :
    (e.set name v).value s = if s.variableName = name then v else e.value s := by
  rw [value, find?_set]
  split
  · rfl
  · rfl

/-- After many variables are set, each is what it was or what it was set to. -/
theorem find?_foldl_set (e : Environment) (xs : List (String × String)) (k : String) :
    (xs.foldl (fun e x => e.set x.1 x.2) e).find? k = e.find? k ∨
      ∃ v, (k, v) ∈ xs ∧ (xs.foldl (fun e x => e.set x.1 x.2) e).find? k = some v := by
  induction xs generalizing e with
  | nil => exact .inl rfl
  | cons x xs ih =>
    obtain ⟨name, value⟩ := x
    rw [List.foldl_cons]
    rcases ih (e.set name value) with h | ⟨v, hmem, h⟩
    · rw [h, find?_set]
      split
      · next hk =>
        subst hk
        exact .inr ⟨value, List.mem_cons_self, rfl⟩
      · exact .inl rfl
    · exact .inr ⟨v, List.mem_cons_of_mem _ hmem, h⟩

/-- Variables that are set leave the settings of all others as they are. -/
theorem value_foldl_set_of_ne {s : Setting} {xs : List (String × String)}
    (h : ∀ x ∈ xs, s.variableName ≠ x.1) (e : Environment) :
    (xs.foldl (fun e x => e.set x.1 x.2) e).value s = e.value s := by
  induction xs generalizing e with
  | nil => rfl
  | cons x xs ih =>
    rw [List.foldl_cons, ih (fun y hy => h y (List.mem_cons_of_mem x hy)), value_set,
      if_neg (h x List.mem_cons_self)]

/-- A setting on which two environments agree is one on which they agree after the same variables
are set in both. -/
theorem value_foldl_set_congr {s : Setting} {e₁ e₂ : Environment} (h : e₁.value s = e₂.value s)
    (xs : List (String × String)) :
    (xs.foldl (fun e x => e.set x.1 x.2) e₁).value s =
      (xs.foldl (fun e x => e.set x.1 x.2) e₂).value s := by
  induction xs generalizing e₁ e₂ with
  | nil => exact h
  | cons x xs ih => exact ih (by rw [value_set, value_set, h])

end PanelConfig.Environment
