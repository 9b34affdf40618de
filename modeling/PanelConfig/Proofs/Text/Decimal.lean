import Mathlib.Data.List.Basic
import PanelConfig.Text.Integer

/-! Decimal integers in ASCII digits are read as the integers that they write. -/

namespace PanelConfig.Text

/-- At least one ASCII digit, and no more than a number may have. -/
structure IsNumeral (ds : List Char) : Prop where
  ne_nil : ds ≠ []
  isDigit : ∀ c ∈ ds, c.isDigit = true
  length_le : ds.length ≤ 4300

/-- The decimal texts of an integer: its digits, after a sign or without one. -/
inductive IsDecimal : List Char → Int → Prop
  | unsigned {ds : List Char} : IsNumeral ds → IsDecimal ds (Nat.ofDigitChars 10 ds 0 : Nat)
  | plus {ds : List Char} : IsNumeral ds → IsDecimal ('+' :: ds) (Nat.ofDigitChars 10 ds 0 : Nat)
  | minus {ds : List Char} :
    IsNumeral ds → IsDecimal ('-' :: ds) (-(Nat.ofDigitChars 10 ds 0 : Nat))

theorem toNat_of_isDigit {c : Char} (h : c.isDigit = true) : 48 ≤ c.toNat ∧ c.toNat ≤ 57 := by
  simp only [Char.isDigit, Bool.and_eq_true, decide_eq_true_eq] at h
  exact h

theorem digitValue?_of_isDigit {c : Char} (h : c.isDigit = true) :
    digitValue? c = some (c.toNat - 48) := by
  obtain ⟨hlow, hhigh⟩ := toNat_of_isDigit h
  have hzero : (decide (0x30 ≤ c.toNat) && decide (c.toNat < 0x30 + 10)) = true := by
    simp only [Bool.and_eq_true, decide_eq_true_eq]
    omega
  rw [digitValue?, decimalZeros, List.find?_cons, hzero]
  rfl

theorem readDigits_of_isDigit {ds : List Char} (h : ∀ c ∈ ds, c.isDigit = true) {gap : Bool}
    (hne : gap = true → ds ≠ []) :
    readDigits gap ds = some (ds.map fun c => c.toNat - 48) := by
  induction ds generalizing gap with
  | nil =>
    cases gap with
    | false => rfl
    | true => exact absurd rfl (hne rfl)
  | cons c ds ih =>
    have hc := h c List.mem_cons_self
    have hunderscore : c ≠ '_' := by
      rintro rfl
      exact absurd hc (by decide)
    have hds : readDigits false ds = some (ds.map fun c => c.toNat - 48) := by
      apply ih
      · intro d hd
        exact h d (List.mem_cons_of_mem c hd)
      · simp
    rw [readDigits, if_neg hunderscore, digitValue?_of_isDigit hc, Option.bind_some, hds]
    rfl

theorem IsNumeral.readNatural {ds : List Char} (h : IsNumeral ds) :
    readNatural ds = some (Nat.ofDigitChars 10 ds 0) := by
  have hvalue : ∀ n, (ds.map fun c => c.toNat - 48).foldl (fun n d => n * 10 + d) n =
      Nat.ofDigitChars 10 ds n := by
    intro n
    rw [List.foldl_map, Nat.ofDigitChars_eq_foldl]
    congr
    funext n c
    rw [Nat.mul_comm n 10]
    rfl
  rw [Text.readNatural, readDigits_of_isDigit h.isDigit fun _ => h.ne_nil, Option.bind_some,
    if_pos (by rw [List.length_map]; exact h.length_le), hvalue]

theorem isNumberBlank_of_isDigit {c : Char} (h : c.isDigit = true) : isNumberBlank c = false := by
  obtain ⟨hlow, hhigh⟩ := toNat_of_isDigit h
  have hranges : ∀ r ∈ blankRanges, r.2 < 48 ∨ 57 < r.1 := by decide
  have hblank : isBlank c = false := covers_eq_false hranges hlow hhigh
  rw [isNumberBlank, hblank, Bool.false_and]

/-- A decimal text has no blanks around it, and its sign tells which way it is read. -/
theorem readInteger_of_isDecimal {s : String} {i : Int} (h : IsDecimal s.toList i) :
    readInteger s = some i := by
  generalize hs : s.toList = cs at h
  have htrim : trimWhere isNumberBlank cs = cs := by
    apply trimWhere_of_all
    intro c hc
    cases h with
    | unsigned hds => exact isNumberBlank_of_isDigit (hds.isDigit c hc)
    | plus hds | minus hds =>
      rcases List.mem_cons.mp hc with rfl | hc
      · rfl
      · exact isNumberBlank_of_isDigit (hds.isDigit c hc)
  rw [readInteger, hs, htrim]
  cases h with
  | plus hds | minus hds =>
    simp only [hds.readNatural]
    rfl
  | unsigned hds =>
    split
    · exact absurd (hds.isDigit '-' List.mem_cons_self) (by decide)
    · exact absurd (hds.isDigit '+' List.mem_cons_self) (by decide)
    · rw [hds.readNatural]
      rfl

/-- The text that an integer is shown by is a decimal text of it. -/
theorem isDecimal_toString {i : Int} (h : (Nat.toDigits 10 i.natAbs).length ≤ 4300) :
    IsDecimal (toString i).toList i := by
  have hnumeral : IsNumeral (Nat.toDigits 10 i.natAbs) :=
    ⟨Nat.toDigits_ne_nil, fun _ => Nat.isDigit_of_mem_toDigits (by decide) (by decide), h⟩
  rw [Int.toString_eq_repr, Int.repr_eq_if]
  split
  · next hi =>
    have hdecimal := IsDecimal.unsigned hnumeral
    rw [Nat.ofDigitChars_ten_toDigits] at hdecimal
    rw [Nat.toList_repr]
    have habs : i.natAbs = i.toNat := by omega
    have hvalue : (i.natAbs : Int) = i := by omega
    rwa [hvalue, habs] at hdecimal
  · next hi =>
    have hdecimal := IsDecimal.minus hnumeral
    rw [Nat.ofDigitChars_ten_toDigits] at hdecimal
    have habs : i.natAbs = (-i).toNat := by omega
    have hvalue : -(i.natAbs : Int) = i := by omega
    rw [hvalue, habs] at hdecimal
    have hminus : "-".toList = ['-'] := rfl
    rw [String.toList_append, hminus, Nat.toList_repr]
    exact hdecimal

end PanelConfig.Text
