/-! Sets of characters given as lists of closed ranges of code points. -/

namespace PanelConfig.Text

abbrev Range := Nat × Nat

/-- `n` lies in one of the ranges. -/
def covers (ranges : List Range) (n : Nat) : Bool :=
  ranges.any fun r => decide (r.1 ≤ n) && decide (n ≤ r.2)

theorem covers_iff {ranges : List Range} {n : Nat} :
    covers ranges n = true ↔ ∃ r ∈ ranges, r.1 ≤ n ∧ n ≤ r.2 := by
  simp [covers]

/-- Ranges that all lie below or above an interval cover nothing of it. -/
theorem covers_eq_false {ranges : List Range} {low high n : Nat}
    (h : ∀ r ∈ ranges, r.2 < low ∨ high < r.1) (hlow : low ≤ n) (hhigh : n ≤ high) :
    covers ranges n = false := by
  rw [Bool.eq_false_iff]
  intro hcovers
  obtain ⟨r, hr, hfirst, hlast⟩ := covers_iff.mp hcovers
  have := h r hr
  omega

end PanelConfig.Text
