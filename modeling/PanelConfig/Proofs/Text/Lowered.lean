import PanelConfig.Text.LowerCase

/-! Text in lower case stays as it is. No run of characters with a lower case reaches what another
leaves, and no capital sigma is left, the one character whose lower case hangs on those around it.
Main statement: the lower case of a text is its own lower case. -/

namespace PanelConfig.Text

/-- The character is its own lower case, whatever stands around it. -/
def IsSettled (c : Char) : Prop := c ≠ '\u03A3' ∧ lowerChar c = [c]

instance (c : Char) : Decidable (IsSettled c) :=
  inferInstanceAs (Decidable (c ≠ '\u03A3' ∧ lowerChar c = [c]))

namespace CaseRun

/-- The lower case of the run `r` has no character in the run `s`: it lies before or behind it, or
passes between the characters of a run that holds every second one. -/
def spares (r s : CaseRun) : Bool :=
  Nat.blt (r.image + (r.last - r.first)) s.first || Nat.blt s.last r.image ||
    s.step == 2 && (r.step == 2 || r.first == r.last) && (r.image + s.first) % 2 == 1

theorem holds_image_of_spares {r s : CaseRun} (h : r.spares s = true) {n : Nat}
    (hn : r.holds n = true) : s.holds (r.image + (n - r.first)) = false := by
  simp only [holds, Bool.and_eq_true, decide_eq_true_eq, beq_iff_eq] at hn
  obtain ⟨⟨hfirst, hlast⟩, hstep⟩ := hn
  rw [Bool.eq_false_iff]
  intro hs
  simp only [holds, Bool.and_eq_true, decide_eq_true_eq, beq_iff_eq] at hs
  obtain ⟨⟨hfirst', hlast'⟩, hstep'⟩ := hs
  simp only [spares, Bool.or_eq_true, Bool.and_eq_true, Nat.blt_eq, beq_iff_eq] at h
  rcases h with (hbefore | hbehind) | ⟨⟨heven, hone⟩, hodd⟩
  · omega
  · omega
  · rw [heven] at hstep'
    rcases hone with htwo | hone
    · rw [htwo] at hstep
      omega
    · omega

end CaseRun

/-- The capital I with a dot above, as a run of its own. -/
def dottedRun : CaseRun := ⟨0x130, 0x130, 1, 0x130⟩

theorem spares_caseRuns :
    caseRuns.all (fun r => (dottedRun :: caseRuns).all r.spares) = true := by
  decide +kernel

theorem isSettled_of_not_holds {c : Char}
    (h : ∀ s ∈ dottedRun :: caseRuns, s.holds c.toNat = false) : IsSettled c := by
  have hruns : ∀ s ∈ caseRuns, s.holds c.toNat = false := fun s hs =>
    h s (List.mem_cons_of_mem _ hs)
  constructor
  · rintro rfl
    exact absurd hruns (by decide +kernel)
  · have hdotted : c ≠ '\u0130' := by
      rintro rfl
      exact absurd (h dottedRun List.mem_cons_self) (by decide)
    have hnone : caseRuns.find? (·.holds c.toNat) = none := by
      rw [List.find?_eq_none]
      exact fun s hs => Bool.eq_false_iff.mp (hruns s hs)
    rw [lowerChar, if_neg hdotted, hnone]

theorem toNat_ofNat_or_null (n : Nat) : (Char.ofNat n).toNat = n ∨ Char.ofNat n = '\x00' := by
  by_cases hn : n.isValidChar
  · left
    rw [Char.ofNat, dif_pos hn]
    rfl
  · right
    rw [Char.ofNat, dif_neg hn]
    rfl

theorem CaseRun.isSettled_image {r : CaseRun} (hr : r ∈ caseRuns) {n : Nat}
    (hn : r.holds n = true) : IsSettled (Char.ofNat (r.image + (n - r.first))) := by
  have hspares := List.all_eq_true.mp (List.all_eq_true.mp spares_caseRuns r hr)
  rcases toNat_ofNat_or_null (r.image + (n - r.first)) with hvalid | hnull
  · apply isSettled_of_not_holds
    intro s hs
    rw [hvalid]
    exact CaseRun.holds_image_of_spares (hspares s hs) hn
  · rw [hnull]
    decide +kernel

theorem isSettled_of_mem_lowerChar {c d : Char} (hc : c ≠ '\u03A3') (h : d ∈ lowerChar c) :
    IsSettled d := by
  by_cases hdotted : c = '\u0130'
  · rw [lowerChar, if_pos hdotted, List.mem_cons, List.mem_singleton] at h
    rcases h with rfl | rfl
    · decide +kernel
    · decide +kernel
  · cases hfind : caseRuns.find? (·.holds c.toNat) with
    | none =>
      have hself : lowerChar c = [c] := by rw [lowerChar, if_neg hdotted, hfind]
      rw [hself, List.mem_singleton] at h
      subst h
      exact ⟨hc, hself⟩
    | some r =>
      rw [lowerChar, if_neg hdotted, hfind, List.mem_singleton] at h
      subst h
      have hholds := List.find?_some hfind
      exact CaseRun.isSettled_image (List.mem_of_find?_eq_some hfind) hholds

theorem isSettled_of_mem_lowerBetween {before after : List Char} {c d : Char}
    (h : d ∈ lowerBetween before c after) : IsSettled d := by
  by_cases hc : c = '\u03A3'
  · rw [lowerBetween, if_pos hc] at h
    split at h
    · rw [List.mem_singleton.mp h]
      decide +kernel
    · rw [List.mem_singleton.mp h]
      decide +kernel
  · rw [lowerBetween, if_neg hc] at h
    exact isSettled_of_mem_lowerChar hc h

theorem isSettled_of_mem_lowerAfter {before cs : List Char} {d : Char}
    (h : d ∈ lowerAfter before cs) : IsSettled d := by
  induction cs generalizing before with
  | nil => cases h
  | cons c cs ih =>
    rw [lowerAfter, List.mem_append] at h
    rcases h with h | h
    · exact isSettled_of_mem_lowerBetween h
    · exact ih h

theorem lowerAfter_of_settled {before cs : List Char} (h : ∀ c ∈ cs, IsSettled c) :
    lowerAfter before cs = cs := by
  induction cs generalizing before with
  | nil => rfl
  | cons c cs ih =>
    obtain ⟨hsigma, hself⟩ := h c List.mem_cons_self
    rw [lowerAfter, lowerBetween, if_neg hsigma, hself, List.singleton_append,
      ih fun d hd => h d (List.mem_cons_of_mem c hd)]

/-- The lower case of a text is its own lower case. -/
theorem lower_lower (s : String) : lower (lower s) = lower s := by
  have hsettled : ∀ c ∈ (lower s).toList, IsSettled c := by
    intro c hc
    rw [lower, String.toList_ofList] at hc
    exact isSettled_of_mem_lowerAfter hc
  rw [lower, lowerAfter_of_settled hsettled, String.ofList_toList]

end PanelConfig.Text
