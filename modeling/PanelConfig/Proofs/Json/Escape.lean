import Mathlib.Data.List.Basic
import PanelConfig.Json.Reader

/-! The escapes of both layouts, character by character: the reader undoes each of them. -/

namespace PanelConfig.Json

open Text

theorem hexValue?_hexDigit {d : Nat} (h : d < 16) : hexValue? (Quoted.hexDigit d) = some d := by
  have hall : ∀ d ∈ List.range 16, hexValue? (Quoted.hexDigit d) = some d := by decide
  exact hall d (List.mem_range.mpr h)

/-- The four digits of a code unit are read back, whatever follows. -/
theorem readUnit_hex {n : Nat} (h : n < 0x10000) (cs : List Char) :
    readUnit (Quoted.hex 4 n ++ cs) = some (n, cs) := by
  have hdigit : ∀ k, hexValue? (Quoted.hexDigit (k % 16)) = some (k % 16) := by
    intro k
    exact hexValue?_hexDigit (Nat.mod_lt k (by decide))
  have hsum : ((n / 16 / 16 / 16 % 16 * 16 + n / 16 / 16 % 16) * 16 + n / 16 % 16) * 16 + n % 16
      = n := by omega
  simp only [Quoted.hex, List.nil_append, List.cons_append, readUnit, hdigit,
    Option.bind_eq_bind, Option.bind_some, hsum]

theorem toNat_lt (c : Char) : c.toNat < 0x110000 := by
  rcases c.valid with hlow | hhigh
  · exact Nat.lt_trans hlow (by decide)
  · exact hhigh.2

theorem readChar_unit {n : Nat} (h : n < 0x10000) (cs : List Char) :
    readChar (unitEscape n ++ cs) = readPair n cs := by
  rw [unitEscape, List.cons_append, List.cons_append, readChar, if_pos rfl, readUnit_hex h,
    Option.bind_some]

theorem readPair_toNat {c : Char} (h : c.toNat < 0x10000) (cs : List Char) :
    readPair c.toNat cs = some (c, cs) := by
  have hvalid : c.toNat < 0xD800 ∨ 0xDFFF < c.toNat := by
    rcases c.valid with hlow | hhigh
    · exact .inl hlow
    · exact .inr hhigh.1
  have hhigh : ¬(0xD800 ≤ c.toNat ∧ c.toNat < 0xDC00) := by omega
  have hlow : ¬(0xDC00 ≤ c.toNat ∧ c.toNat < 0xE000) := by omega
  unfold readPair
  rw [if_neg hhigh, if_neg hlow, Char.ofNat_toNat]

theorem readChar_self {c : Char} (hq : c ≠ '"') (hb : c ≠ '\\') (hc : ¬c.toNat < 0x20)
    (cs : List Char) : readChar (c :: cs) = some (c, cs) := by
  have hplain : ¬(c = '"' ∨ c.toNat < 0x20) := by
    rintro (h | h)
    · exact hq h
    · exact hc h
  unfold readChar
  split
  · next h => cases h
  · next h => exact absurd (List.cons.inj h).1 hb
  · next h => exact absurd (List.cons.inj h).1 hb
  · next h =>
    cases h
    rw [if_neg hplain]

theorem readChar_escape (c : Char) (cs : List Char) : readChar (escape c ++ cs) = some (c, cs) := by
  rw [escape]
  -- the escapes of two characters
  iterate 7
    split
    · next h =>
      subst h
      rfl
  split
  · next h =>
    have hunit : c.toNat < 0x10000 := by omega
    rw [readChar_unit hunit, readPair_toNat hunit]
  · next hq hb _ _ _ _ _ hc => exact readChar_self hq hb hc cs

theorem head?_unitEscape (n : Nat) : (unitEscape n).head? = some '\\' := rfl

theorem head?_escape (c : Char) : (escape c).head? ≠ some '"' := by
  rw [escape]
  split
  · simp
  next hq =>
  iterate 6
    split
    · simp
  split
  · rw [head?_unitEscape]
    simp
  · simpa using hq

end PanelConfig.Json
