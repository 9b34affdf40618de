import PanelConfig.Text.Quoted

/-! Quoted text. It is read back as the text that it quotes, and holds nothing but printable
characters. Where the text is ASCII and holds no quote, no backslash and no control, it stands
between single quotes as it is. -/

namespace PanelConfig.Text

/-- The character stands for itself between single quotes. -/
def standsForItself (c : Char) : Bool :=
  decide (0x20 ≤ c.toNat) && decide (c.toNat < 0x7f) && c != '\'' && c != '\\'

theorem escape_notMem {cs : List Char} (h : cs.all standsForItself = true) : '\x1b' ∉ cs :=
  fun hmem => absurd (List.all_eq_true.mp h _ hmem) (by decide)

theorem isPrintable_of_ascii {c : Char} (hlow : 0x20 ≤ c.toNat) (hhigh : c.toNat < 0x7f) :
    isPrintable c = true := by
  have hranges : ∀ r ∈ unprintableRanges, r.2 < 0x20 ∨ 0x7e < r.1 := by decide +kernel
  rw [isPrintable, Bool.not_eq_true']
  exact covers_eq_false hranges hlow (Nat.le_of_lt_succ hhigh)

theorem escape_of_standsForItself {c : Char} (h : standsForItself c = true) :
    Quoted.escape '\'' c = [c] := by
  simp only [standsForItself, Bool.and_eq_true, decide_eq_true_eq, bne_iff_ne, ne_eq] at h
  obtain ⟨⟨⟨hlow, hhigh⟩, hquote⟩, hbackslash⟩ := h
  have hcontrol : ∀ d : Char, d.toNat < 0x20 → c ≠ d := by
    rintro d hd rfl
    omega
  rw [Quoted.escape, if_neg (by simp [hquote, hbackslash]), if_neg (hcontrol _ (by decide)),
    if_neg (hcontrol _ (by decide)), if_neg (hcontrol _ (by decide)),
    if_pos (isPrintable_of_ascii hlow hhigh)]

theorem flatMap_escape {cs : List Char} (h : ∀ c ∈ cs, standsForItself c = true) :
    cs.flatMap (Quoted.escape '\'') = cs := by
  induction cs with
  | nil => rfl
  | cons c cs ih =>
    rw [List.flatMap_cons, escape_of_standsForItself (h c List.mem_cons_self),
      ih fun d hd => h d (List.mem_cons_of_mem c hd)]
    rfl

theorem quoted_of_standsForItself {s : String} (h : s.toList.all standsForItself = true) :
    quoted s = "'" ++ s ++ "'" := by
  have hall := List.all_eq_true.mp h
  have hquote : '\'' ∉ s.toList := fun hmem => absurd (hall _ hmem) (by decide)
  have hmark : Quoted.mark s.toList = '\'' := if_neg fun hq => hquote hq.1
  apply String.toList_injective
  rw [quoted, String.toList_ofList, Quoted.encode, hmark, flatMap_escape hall]
  simp

/-! Quoted text is read back. -/

theorem length_le_length_flatMap {α β : Type} {f : α → List β} (h : ∀ a, f a ≠ []) (l : List α) :
    l.length ≤ (l.flatMap f).length := by
  induction l with
  | nil => exact Nat.zero_le _
  | cons a l ih =>
    have hpos : 0 < (f a).length := List.length_pos_iff.mpr (h a)
    rw [List.flatMap_cons, List.length_append, List.length_cons]
    omega

namespace Quoted

theorem hexValue?_hexDigit {d : Nat} (h : d < 16) : hexValue? (hexDigit d) = some d := by
  have hall : ∀ d ∈ List.range 16, hexValue? (hexDigit d) = some d := by decide
  exact hall d (List.mem_range.mpr h)

/-- The last of the digits may be read apart from those before it. -/
theorem readHex_succ (width n : Nat) (cs : List Char) :
    readHex (width + 1) n cs = (readHex width n cs).bind fun r => readHex 1 r.1 r.2 := by
  induction width generalizing n cs with
  | zero => rfl
  | succ width ih =>
    cases cs with
    | nil => rfl
    | cons c cs =>
      rw [readHex, readHex, Option.bind_assoc]
      congr 1
      funext d
      exact ih _ _

theorem readHex_hex {width n : Nat} (h : n < Nat.pow 16 width) (cs : List Char) :
    readHex width 0 (hex width n ++ cs) = some (n, cs) := by
  induction width generalizing n cs with
  | zero =>
    rw [Nat.lt_one_iff.mp h]
    rfl
  | succ width ih =>
    have hfront : n / 16 < Nat.pow 16 width := (Nat.div_lt_iff_lt_mul (by decide)).mpr h
    have hlast := hexValue?_hexDigit (Nat.mod_lt n (show 0 < 16 by decide))
    have hvalue : n / 16 * 16 + n % 16 = n := by omega
    rw [hex, List.append_assoc, readHex_succ, ih hfront, Option.bind_some, List.singleton_append,
      readHex, hlast, Option.bind_some, readHex, hvalue]

theorem exists_of_mem_hex {c : Char} {width n : Nat} (h : c ∈ hex width n) :
    ∃ d ∈ List.range 16, c = hexDigit d := by
  induction width generalizing n with
  | zero => cases h
  | succ width ih =>
    rw [hex, List.mem_append, List.mem_singleton] at h
    rcases h with h | h
    · exact ih h
    · exact ⟨n % 16, List.mem_range.mpr (Nat.mod_lt n (by decide)), h⟩

/-- A mark that stands around quoted text. -/
inductive IsMark : Char → Prop
  | single : IsMark '\''
  | double : IsMark '"'

theorem isMark_mark (cs : List Char) : IsMark (mark cs) := by
  rw [mark]
  split
  · exact .double
  · exact .single

variable {quote : Char}

theorem IsMark.ne_backslash (h : IsMark quote) : quote ≠ '\\' := by
  cases h with
  | single => decide
  | double => decide

theorem readChar_self {c : Char} (h : c ≠ '\\') (cs : List Char) :
    readChar (c :: cs) = some (c, cs) := by
  rw [readChar]
  -- the reader tries every escape first
  all_goals
    intros
    exact h ‹c = '\\'›

/-- The reader undoes the escape of a character, whatever follows. -/
theorem readChar_escape (h : IsMark quote) (c : Char) (cs : List Char) :
    readChar (escape quote c ++ cs) = some (c, cs) := by
  rw [escape]
  split
  · next hc =>
    rcases hc with rfl | rfl
    · cases h with
      | single => rfl
      | double => rfl
    · rfl
  next hc =>
  rw [not_or] at hc
  -- the three controls that have letters
  iterate 3
    split
    · next hcontrol =>
      subst hcontrol
      rfl
  split
  · exact readChar_self hc.2 cs
  split
  · next hwidth =>
    rw [List.cons_append, List.cons_append, readChar, readHex_hex hwidth, Option.map_some,
      Char.ofNat_toNat]
  split
  · next hwidth =>
    rw [List.cons_append, List.cons_append, readChar, readHex_hex hwidth, Option.map_some,
      Char.ofNat_toNat]
  · have hwidth : c.toNat < Nat.pow 16 8 := c.val.toNat_lt
    rw [List.cons_append, List.cons_append, readChar, readHex_hex hwidth, Option.map_some,
      Char.ofNat_toNat]

/-- No escape opens with the mark, so that the mark ends a quoted text wherever it stands alone. -/
theorem exists_escape_eq (h : IsMark quote) (c : Char) :
    ∃ d ds, escape quote c = d :: ds ∧ d ≠ quote := by
  have hbackslash := h.ne_backslash.symm
  rw [escape]
  split
  · exact ⟨_, _, rfl, hbackslash⟩
  next hc =>
  rw [not_or] at hc
  iterate 3
    split
    · exact ⟨_, _, rfl, hbackslash⟩
  split
  · exact ⟨_, _, rfl, hc.1⟩
  split
  · exact ⟨_, _, rfl, hbackslash⟩
  split
  · exact ⟨_, _, rfl, hbackslash⟩
  · exact ⟨_, _, rfl, hbackslash⟩

theorem escape_ne_nil (h : IsMark quote) (c : Char) : escape quote c ≠ [] := by
  obtain ⟨d, ds, heq, -⟩ := exists_escape_eq h c
  rw [heq]
  exact List.cons_ne_nil d ds

theorem readBody_flatMap (h : IsMark quote) {fuel : Nat} {cs : List Char} (hf : cs.length < fuel) :
    readBody quote fuel (cs.flatMap (escape quote) ++ [quote]) = some cs := by
  induction cs generalizing fuel with
  | nil =>
    cases fuel with
    | zero => cases hf
    | succ fuel => rw [List.flatMap_nil, List.nil_append, readBody, if_pos rfl]
  | cons c cs ih =>
    cases fuel with
    | zero => cases hf
    | succ fuel =>
      obtain ⟨d, ds, hescape, hd⟩ := exists_escape_eq h c
      have hopen : ∀ rest, escape quote c ++ rest ≠ [quote] := by
        intro rest heq
        rw [hescape, List.cons_append] at heq
        exact hd (List.cons.inj heq).1
      rw [List.flatMap_cons, List.append_assoc, readBody, if_neg (hopen _), readChar_escape h,
        Option.bind_some, ih (Nat.lt_of_succ_lt_succ hf), Option.map_some]

theorem decode_encode (cs : List Char) : decode (encode cs) = some cs := by
  have hmark := isMark_mark cs
  rw [encode, List.cons_append, decode]
  apply readBody_flatMap hmark
  have hle := length_le_length_flatMap (escape_ne_nil hmark) cs
  rw [List.length_append, List.length_singleton]
  omega

end Quoted

theorem decode_quoted (s : String) : Quoted.decode (quoted s).toList = some s.toList := by
  rw [quoted, String.toList_ofList, Quoted.decode_encode]

/-! Quoted text is printable. -/

/-- The characters that control a terminal, and those that end a line. -/
def controlRanges : List Range := [(0x0, 0x1F), (0x7F, 0x9F), (0x2028, 0x2029)]

theorem not_isControl_of_isPrintable {c : Char} (h : isPrintable c = true) :
    covers controlRanges c.toNat = false := by
  have hranges : ∀ r ∈ controlRanges, ∃ s ∈ unprintableRanges, s.1 ≤ r.1 ∧ r.2 ≤ s.2 := by
    decide +kernel
  rw [Bool.eq_false_iff]
  intro hcovers
  obtain ⟨r, hr, hfirst, hlast⟩ := covers_iff.mp hcovers
  obtain ⟨s, hs, hlow, hhigh⟩ := hranges r hr
  have hunprintable : covers unprintableRanges c.toNat = true :=
    covers_iff.mpr ⟨s, hs, Nat.le_trans hlow hfirst, Nat.le_trans hlast hhigh⟩
  rw [isPrintable, hunprintable] at h
  cases h

/-- The text holds nothing but printable characters. -/
def Printable (cs : List Char) : Prop := ∀ c ∈ cs, isPrintable c = true

namespace Printable

variable {cs ds : List Char}

theorem of_all (h : cs.all isPrintable = true) : Printable cs := List.all_eq_true.mp h

theorem append (hcs : Printable cs) (hds : Printable ds) : Printable (cs ++ ds) :=
  List.forall_mem_append.mpr ⟨hcs, hds⟩

theorem cons {c : Char} (hc : isPrintable c = true) (hcs : Printable cs) : Printable (c :: cs) :=
  List.forall_mem_cons.mpr ⟨hc, hcs⟩

end Printable

namespace Quoted

variable {quote : Char}

theorem IsMark.isPrintable (h : IsMark quote) : isPrintable quote = true := by
  cases h with
  | single => exact isPrintable_of_ascii (by decide) (by decide)
  | double => exact isPrintable_of_ascii (by decide) (by decide)

theorem printable_hex (width n : Nat) : Printable (hex width n) := by
  intro c hc
  have hdigit : ∀ d ∈ List.range 16, isPrintable (hexDigit d) = true := by decide +kernel
  obtain ⟨d, hd, rfl⟩ := exists_of_mem_hex hc
  exact hdigit d hd

theorem printable_escape (h : IsMark quote) (c : Char) : Printable (escape quote c) := by
  have hbackslash : isPrintable '\\' = true := isPrintable_of_ascii (by decide) (by decide)
  have hwidths : ∀ letter ∈ ['x', 'u', 'U'], ∀ width,
      Printable ('\\' :: letter :: hex width c.toNat) := by
    intro letter hletter width
    have hall : Printable ['x', 'u', 'U'] := .of_all (by decide +kernel)
    exact .cons hbackslash (.cons (hall letter hletter) (printable_hex width _))
  rw [escape]
  split
  · next hc =>
    rcases hc with rfl | rfl
    · exact .cons hbackslash (.cons h.isPrintable (.of_all rfl))
    · exact .cons hbackslash (.cons hbackslash (.of_all rfl))
  iterate 3
    split
    · exact .of_all (by decide +kernel)
  split
  · next hc => exact .cons hc (.of_all rfl)
  split
  · exact hwidths 'x' (by simp) 2
  split
  · exact hwidths 'u' (by simp) 4
  · exact hwidths 'U' (by simp) 8

end Quoted

theorem printable_quoted (s : String) : Printable (quoted s).toList := by
  have hmark := Quoted.isMark_mark s.toList
  have hbody : Printable (s.toList.flatMap (Quoted.escape (Quoted.mark s.toList))) := by
    intro c hc
    obtain ⟨d, -, hd⟩ := List.mem_flatMap.mp hc
    exact Quoted.printable_escape hmark d c hd
  rw [quoted, String.toList_ofList, Quoted.encode]
  exact (Printable.cons hmark.isPrintable hbody).append (.cons hmark.isPrintable (.of_all rfl))

end PanelConfig.Text
