import PanelConfig.Proofs.Json.Escape
import PanelConfig.Proofs.Text.Decimal
import PanelConfig.Proofs.Text.Quoted

/-! The indented layout is plain text: it consists of printable ASCII and line feeds. -/

namespace PanelConfig.Json

open Text

/-- Characters that are seen as they are, and the line feed. -/
def isPlain (c : Char) : Bool := c = '\n' || decide (0x20 ≤ c.toNat) && decide (c.toNat < 0x7F)

theorem isPlain_hex {width n : Nat} {c : Char} (h : c ∈ Quoted.hex width n) : isPlain c = true := by
  have hdigit : ∀ d ∈ List.range 16, isPlain (Quoted.hexDigit d) = true := by decide
  obtain ⟨d, hd, rfl⟩ := Quoted.exists_of_mem_hex h
  exact hdigit d hd

theorem isPlain_unitEscape {n : Nat} {c : Char} (h : c ∈ unitEscape n) : isPlain c = true := by
  rcases List.mem_cons.mp h with rfl | h
  · rfl
  rcases List.mem_cons.mp h with rfl | h
  · rfl
  · exact isPlain_hex h

theorem isPlain_of_mem_pair {a b x : Char} (ha : isPlain a = true) (hb : isPlain b = true)
    (h : x ∈ [a, b]) : isPlain x = true := by
  rcases List.mem_cons.mp h with rfl | h
  · exact ha
  · rw [List.mem_singleton.mp h]
    exact hb

theorem isPlain_escape {c x : Char} (hc : c.toNat < 0x7F) (h : x ∈ escape c) :
    isPlain x = true := by
  rw [escape] at h
  -- the escapes of two characters
  iterate 7
    split at h
    · exact isPlain_of_mem_pair rfl rfl h
  split at h
  · exact isPlain_unitEscape h
  · next hlow =>
    cases List.mem_singleton.mp h
    simp only [isPlain, Bool.or_eq_true, Bool.and_eq_true, decide_eq_true_eq]
    exact .inr ⟨Nat.le_of_not_lt hlow, hc⟩

theorem isPlain_escapeAscii {c x : Char} (h : x ∈ escapeAscii c) : isPlain x = true := by
  rw [escapeAscii] at h
  split at h
  · next hc => exact isPlain_escape hc h
  split at h
  · exact isPlain_unitEscape h
  · rcases List.mem_append.mp h with h | h
    · exact isPlain_unitEscape h
    · exact isPlain_unitEscape h

/-- All characters are plain. -/
def Plain (cs : List Char) : Prop := ∀ c ∈ cs, isPlain c = true

theorem Plain.nil : Plain [] := by
  intro c hc
  cases hc

theorem Plain.append {as bs : List Char} (ha : Plain as) (hb : Plain bs) : Plain (as ++ bs) := by
  intro c hc
  rcases List.mem_append.mp hc with h | h
  · exact ha c h
  · exact hb c h

theorem Plain.cons {c : Char} {cs : List Char} (hc : isPlain c = true) (hcs : Plain cs) :
    Plain (c :: cs) :=
  List.forall_mem_cons.mpr ⟨hc, hcs⟩

theorem Plain.of_all {cs : List Char} (h : cs.all isPlain = true) : Plain cs :=
  List.all_eq_true.mp h

theorem Plain.toNat_lt {cs : List Char} (h : Plain cs) {c : Char} (hc : c ∈ cs) :
    c.toNat < 0x80 := by
  have hplain := h c hc
  simp only [isPlain, Bool.or_eq_true, Bool.and_eq_true, decide_eq_true_eq] at hplain
  rcases hplain with rfl | ⟨-, hlt⟩
  · decide
  · omega

theorem plain_gap (depth : Nat) : Plain (indented.gap depth) := by
  apply Plain.cons rfl
  intro c hc
  rw [List.eq_of_mem_replicate hc]
  rfl

theorem plain_writeText (s : String) : Plain (writeText indented s) := by
  refine .append (.cons rfl ?_) (.of_all rfl)
  intro x hx
  obtain ⟨c, -, hc⟩ := List.mem_flatMap.mp hx
  exact isPlain_escapeAscii hc

theorem isPlain_digit {c : Char} (h : c.isDigit = true) : isPlain c = true := by
  obtain ⟨hlow, hhigh⟩ := toNat_of_isDigit h
  simp only [isPlain, Bool.or_eq_true, Bool.and_eq_true, decide_eq_true_eq]
  exact .inr ⟨by omega, by omega⟩

theorem plain_repr (n : Nat) : Plain n.repr.toList := by
  intro c hc
  rw [Nat.toList_repr] at hc
  exact isPlain_digit (Nat.isDigit_of_mem_toDigits (b := 10) (by decide) (by decide) hc)

theorem plain_toString (i : Int) : Plain (toString i).toList := by
  rw [Int.toString_eq_repr, Int.repr_eq_if]
  split
  · exact plain_repr i.toNat
  · rw [String.toList_append]
    exact .append (.of_all rfl) (plain_repr _)

theorem Plain.bracketed {opening closing : Char} {cs : List Char} (depth : Nat)
    (ho : isPlain opening = true) (hcs : Plain cs) (hc : isPlain closing = true) :
    Plain (opening :: indented.gap (depth + 1) ++ cs ++ indented.gap depth ++ [closing]) := by
  have hopening := Plain.cons ho (plain_gap (depth + 1))
  have hclosing := Plain.cons hc .nil
  exact ((hopening.append hcs).append (plain_gap depth)).append hclosing

mutual

theorem plain_write : ∀ (v : Value) (depth : Nat), Plain (write indented depth v)
  | .absent, _ => .of_all rfl
  | .flag true, _ => .of_all rfl
  | .flag false, _ => .of_all rfl
  | .number i, _ => plain_toString i
  | .text s, _ => plain_writeText s
  | .list [], _ => .of_all rfl
  | .list (v :: vs), depth => .bracketed depth rfl (plain_writeItems (v :: vs) (depth + 1)) rfl
  | .mapping [], _ => .of_all rfl
  | .mapping (e :: es), depth =>
    .bracketed depth rfl (plain_writeEntries (e :: es) (depth + 1)) rfl

theorem plain_writeItems : ∀ (vs : List Value) (depth : Nat),
    Plain (writeItems indented depth vs)
  | [], _ => .nil
  | [v], depth => plain_write v depth
  | v :: w :: vs, depth => by
    have hv := plain_write v depth
    have hitems := plain_writeItems (w :: vs) depth
    have hcomma := Plain.cons (c := ',') rfl (plain_gap depth)
    rw [writeItems]
    · exact (hv.append hcomma).append hitems
    · simp

theorem plain_writeEntries : ∀ (es : List (String × Value)) (depth : Nat),
    Plain (writeEntries indented depth es)
  | [], _ => .nil
  | [(key, v)], depth => ((plain_writeText key).append (.of_all rfl)).append (plain_write v depth)
  | (key, v) :: e :: es, depth => by
    have hcolon : Plain indented.colon := .of_all rfl
    have hkey := (plain_writeText key).append hcolon
    have hv := plain_write v depth
    have hentries := plain_writeEntries (e :: es) depth
    have hcomma := Plain.cons (c := ',') rfl (plain_gap depth)
    rw [writeEntries]
    · exact ((hkey.append hv).append hcomma).append hentries
    · simp

end

end PanelConfig.Json
