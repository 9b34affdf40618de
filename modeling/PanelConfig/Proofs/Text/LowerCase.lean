import PanelConfig.Text.Blank
import PanelConfig.Text.LowerCase

/-! Which texts are lowered to a word in ASCII. An ASCII character is lowered by itself and stays
one; of every other character something remains that is not ASCII, except that the Kelvin sign
becomes a k. Main statement: a word in ASCII without a k is the lower case of exactly the texts that
differ from it in nothing but the case of ASCII letters. -/

namespace PanelConfig.Text

/-- The texts are the same up to the case of ASCII letters. -/
def SameLetters (s t : String) : Prop :=
  s.toList.map Char.toLower = t.toList.map Char.toLower

instance (s t : String) : Decidable (SameLetters s t) :=
  inferInstanceAs (Decidable (s.toList.map Char.toLower = t.toList.map Char.toLower))

/-- An ASCII character that is the lower case of ASCII characters only. -/
def IsPlain (c : Char) : Prop := c.toNat < 0x80 ∧ c ≠ 'k'

instance (c : Char) : Decidable (IsPlain c) :=
  inferInstanceAs (Decidable (c.toNat < 0x80 ∧ c ≠ 'k'))

theorem lowerChar_of_ascii {c : Char} (h : c.toNat < 0x80) : lowerChar c = [c.toLower] := by
  have hall : ∀ n < 0x80, lowerChar (Char.ofNat n) = [(Char.ofNat n).toLower] := by
    decide +kernel
  have hc := hall c.toNat h
  rwa [Char.ofNat_toNat] at hc

theorem toLower_of_not_capital {c : Char} (h : c.toNat < 0x41 ∨ 0x5A < c.toNat) :
    c.toLower = c := by
  have hcapital : ¬('A'.val ≤ c.val ∧ c.val ≤ 'Z'.val) := by
    rintro ⟨ha, hz⟩
    have hlow : 0x41 ≤ c.toNat := ha
    have hhigh : c.toNat ≤ 0x5A := hz
    omega
  exact dif_neg hcapital

/-- The lower case of a run outside of ASCII stays outside of it, the Kelvin sign apart. -/
theorem image_of_mem_caseRuns : ∀ r ∈ caseRuns,
    r.last < 0x80 ∨ r.first = r.last ∧ r.image = 'k'.toNat ∨
      0x80 ≤ r.image ∧ (r.image + (r.last - r.first) < 0xD800 ∨
        0xE000 ≤ r.image ∧ r.image + (r.last - r.first) < 0x110000) := by
  decide +kernel

theorem not_isPlain_of_not_ascii {c : Char} (h : 0x80 ≤ c.toNat) : ¬IsPlain c :=
  fun hc => absurd hc.1 (Nat.not_lt.mpr h)

theorem not_isPlain_ofNat {n : Nat} (h : 0x80 ≤ n)
    (hvalid : n < 0xD800 ∨ 0xE000 ≤ n ∧ n < 0x110000) : ¬IsPlain (Char.ofNat n) := by
  apply not_isPlain_of_not_ascii
  have hn : n.isValidChar := by
    rcases hvalid with hn | hn
    · exact .inl hn
    · exact .inr ⟨by omega, hn.2⟩
  rw [Char.ofNat, dif_pos hn]
  exact h

theorem CaseRun.not_isPlain_image {r : CaseRun} (hr : r ∈ caseRuns) {n : Nat} (h : 0x80 ≤ n)
    (hn : r.holds n = true) : ¬IsPlain (Char.ofNat (r.image + (n - r.first))) := by
  simp only [CaseRun.holds, Bool.and_eq_true, decide_eq_true_eq] at hn
  obtain ⟨⟨hfirst, hlast⟩, -⟩ := hn
  rcases image_of_mem_caseRuns r hr with hascii | ⟨hone, himage⟩ | ⟨himage, hvalid⟩
  · omega
  · have hkelvin : r.image + (n - r.first) = 'k'.toNat := by omega
    rw [hkelvin, Char.ofNat_toNat]
    exact fun hk => hk.2 rfl
  · exact not_isPlain_ofNat (by omega) (by omega)

/-- What is left last of a character outside of ASCII is no plain one, and only an i can come before
it. -/
theorem lowerChar_of_not_ascii {c : Char} (h : 0x80 ≤ c.toNat) :
    ∃ front d, lowerChar c = front ++ [d] ∧ (front = [] ∨ front = ['i']) ∧ ¬IsPlain d := by
  rw [lowerChar]
  split
  · exact ⟨['i'], '\u0307', rfl, .inr rfl, by decide⟩
  · split
    · next r hr =>
      have hholds := List.find?_some hr
      exact ⟨[], _, rfl, .inl rfl,
        CaseRun.not_isPlain_image (List.mem_of_find?_eq_some hr) h hholds⟩
    · exact ⟨[], c, rfl, .inl rfl, not_isPlain_of_not_ascii h⟩

theorem lowerBetween_of_ascii {c : Char} (h : c.toNat < 0x80) (before after : List Char) :
    lowerBetween before c after = [c.toLower] := by
  rw [lowerBetween, if_neg, lowerChar_of_ascii h]
  rintro rfl
  exact absurd h (by decide)

theorem lowerBetween_of_not_ascii {c : Char} (h : 0x80 ≤ c.toNat) (before after : List Char) :
    ∃ front d, lowerBetween before c after = front ++ [d] ∧ (front = [] ∨ front = ['i']) ∧
      ¬IsPlain d := by
  rw [lowerBetween]
  split
  · split
    · exact ⟨[], '\u03C2', rfl, .inl rfl, by decide⟩
    · exact ⟨[], '\u03C3', rfl, .inl rfl, by decide⟩
  · exact lowerChar_of_not_ascii h

theorem lowerAfter_eq_iff {before cs w : List Char} (hw : ∀ c ∈ w, IsPlain c) :
    lowerAfter before cs = w ↔ cs.map Char.toLower = w := by
  induction cs generalizing before w with
  | nil => rfl
  | cons c cs ih =>
    rw [lowerAfter, List.map_cons]
    rcases Nat.lt_or_ge c.toNat 0x80 with hc | hc
    · rw [lowerBetween_of_ascii hc, List.singleton_append]
      cases w with
      | nil => exact iff_of_false nofun nofun
      | cons d w =>
        rw [List.cons.injEq, List.cons.injEq, ih fun x hx => hw x (List.mem_cons_of_mem d hx)]
    · obtain ⟨front, d, hlow, -, hd⟩ := lowerBetween_of_not_ascii hc before cs
      constructor
      · rintro rfl
        exact absurd (hw d (by rw [hlow]; simp)) hd
      · rintro rfl
        rw [toLower_of_not_capital (by omega)] at hw
        exact absurd (hw c List.mem_cons_self) (not_isPlain_of_not_ascii hc)

theorem lower_eq_iff {s w : String} (hw : ∀ c ∈ w.toList, IsPlain c)
    (hlow : w.toList.map Char.toLower = w.toList) : lower s = w ↔ SameLetters s w := by
  rw [SameLetters, hlow, ← lowerAfter_eq_iff hw, ← String.toList_inj, lower, String.toList_ofList]

end PanelConfig.Text
