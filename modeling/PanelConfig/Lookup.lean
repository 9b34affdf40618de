/-! Looking up a key in a list of keys and values from which the entries of another key, or of the
same one, are taken away. -/

namespace PanelConfig

variable {α β : Type} [BEq α] [LawfulBEq α] [DecidableEq α] {l k : α}

theorem lookup_filter_ne (h : l ≠ k) (es : List (α × β)) :
    (es.filter fun x => x.1 ≠ k).lookup l = es.lookup l := by
  have hk : (l == k) = false := by simp [h]
  induction es with
  | nil => rfl
  | cons x es ih =>
    obtain ⟨m, e⟩ := x
    rw [List.filter_cons, List.lookup_cons]
    by_cases hm : m = k
    · simp [hm, hk, ← ih]
    · simp only [hm, ne_eq, not_false_eq_true, decide_true, if_true, List.lookup_cons, ← ih]

theorem lookup_filter_self (k : α) (es : List (α × β)) :
    (es.filter fun x => x.1 ≠ k).lookup k = none := by
  rw [List.lookup_eq_none_iff]
  intro x hx
  have hne := (List.mem_filter.mp hx).2
  simp only [decide_eq_true_eq] at hne
  simpa using Ne.symm hne

end PanelConfig
