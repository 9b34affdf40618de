import PanelConfig.Proofs.Json.Escape
import PanelConfig.Proofs.Text.Quoted

/-! What the writer of JSON text writes, the reader reads back: every value, in either layout. -/

namespace PanelConfig.Json

open Text

/-- The layout can be read back: its escapes are undone by the reader, none of them looks like the
end of a text, and nothing but blanks follows a colon. -/
structure Layout.Faithful (l : Layout) : Prop where
  readChar_escape : ∀ c cs, readChar (l.escape c ++ cs) = some (c, cs)
  head_escape : ∀ c, (l.escape c).head? ≠ some '"'
  colon : ∃ blanks, l.colon = ':' :: blanks ∧ ∀ c ∈ blanks, isSpace c = true

theorem faithful_compact : compact.Faithful where
  readChar_escape := readChar_escape
  head_escape := head?_escape
  colon := ⟨[], rfl, by simp⟩

variable {l : Layout} {depth fuel : Nat} {rest blanks : List Char}

theorem isSpace_gap {c : Char} (h : c ∈ l.gap depth) : isSpace c = true := by
  rw [Layout.gap] at h
  split at h
  · cases h
  · rcases List.mem_cons.mp h with rfl | h
    · rfl
    · rw [List.eq_of_mem_replicate h]
      rfl

theorem skipSpace_append (h : ∀ c ∈ blanks, isSpace c = true) (cs : List Char) :
    skipSpace (blanks ++ cs) = skipSpace cs :=
  List.dropWhile_append_of_pos h

theorem skipSpace_cons {c : Char} (h : isSpace c = false) (cs : List Char) :
    skipSpace (c :: cs) = c :: cs :=
  List.dropWhile_cons_of_neg (by simp [h])

theorem skipSpace_gap (cs : List Char) : skipSpace (l.gap depth ++ cs) = skipSpace cs :=
  skipSpace_append (fun _ => isSpace_gap) cs

/-! Texts. -/

theorem escape_ne_nil (hl : l.Faithful) (c : Char) : l.escape c ≠ [] := by
  intro h
  have hread := hl.readChar_escape c []
  rw [h] at hread
  cases hread

theorem readText_succ {cs : List Char} (h : cs.head? ≠ some '"') :
    readText (fuel + 1) cs =
      (readChar cs).bind fun r => (readText fuel r.2).map fun t => (r.1 :: t.1, t.2) := by
  have hquote : ∀ t, cs = '"' :: t → False := by
    rintro t rfl
    exact h rfl
  rw [readText]
  exact hquote

theorem readText_flatMap (hl : l.Faithful) (cs : List Char) (h : cs.length < fuel) :
    readText fuel (cs.flatMap l.escape ++ '"' :: rest) = some (cs, rest) := by
  induction cs generalizing fuel with
  | nil =>
    obtain ⟨k, rfl⟩ : ∃ k, fuel = k + 1 := ⟨fuel - 1, by simp at h; omega⟩
    rfl
  | cons c cs ih =>
    rw [List.length_cons] at h
    obtain ⟨k, rfl⟩ : ∃ k, fuel = k + 1 := ⟨fuel - 1, by omega⟩
    rw [List.flatMap_cons, List.append_assoc, readText_succ, hl.readChar_escape, Option.bind_some,
      ih (by omega), Option.map_some]
    rw [List.head?_append_of_ne_nil _ (escape_ne_nil hl c)]
    exact hl.head_escape c

/-- A text is read up to its closing quote, whatever follows. -/
theorem readText_writeText (hl : l.Faithful) (s : String) (rest : List Char) :
    ∃ cs, writeText l s ++ rest = '"' :: cs ∧ readText cs.length cs = some (s.toList, rest) := by
  refine ⟨s.toList.flatMap l.escape ++ '"' :: rest, by simp [writeText], ?_⟩
  apply readText_flatMap hl
  have hle := length_le_length_flatMap (escape_ne_nil hl) s.toList
  simp only [List.length_append, List.length_cons]
  omega

/-! Numbers. -/

/-- The character would go on with a number. -/
def continuesNumber (c : Char) : Bool := c.isDigit || c = '.' || c = 'e' || c = 'E'

/-- A number that stands before these characters ends there. -/
def Stops (rest : List Char) : Prop := ∀ c cs, rest = c :: cs → continuesNumber c = false

theorem stops_cons {c : Char} (h : continuesNumber c = false) (cs : List Char) :
    Stops (c :: cs) := by
  intro _ _ heq
  cases heq
  exact h

theorem stops_gap {c : Char} (h : continuesNumber c = false) (cs : List Char) :
    Stops (l.gap depth ++ c :: cs) := by
  rw [Layout.gap]
  split
  · exact stops_cons h cs
  · exact stops_cons rfl _

theorem readNumber_append {ds : List Char} (hds : ∀ c ∈ ds, c.isDigit = true) (n : Nat)
    (hr : Stops rest) : readNumber n (ds ++ rest) = (Nat.ofDigitChars 10 ds n, rest) := by
  induction ds generalizing n with
  | nil =>
    cases rest with
    | nil => rfl
    | cons c cs =>
      have hc := hr c cs rfl
      simp only [continuesNumber, Bool.or_eq_false_iff] at hc
      rw [List.nil_append, readNumber, if_neg (by simp [hc.1.1.1]), Nat.ofDigitChars_nil]
  | cons d ds ih =>
    have hd := hds d List.mem_cons_self
    rw [List.cons_append, readNumber, if_pos hd, ih fun c hc => hds c (List.mem_cons_of_mem _ hc),
      Nat.ofDigitChars_cons, Nat.mul_comm n 10]
    rfl

theorem eq_zero_of_toDigits {n : Nat} {ds : List Char} (h : Nat.toDigits 10 n = '0' :: ds) :
    n = 0 := by
  induction n using Nat.strongRecOn generalizing ds with
  | ind n ih =>
    rw [Nat.toDigits_eq_if (by decide)] at h
    split at h
    · next hn =>
      have hd := (List.cons.inj h).1
      exact Nat.digitChar_eq_zero.mp hd
    · next hn =>
      cases hq : Nat.toDigits 10 (n / 10) with
      | nil => exact absurd hq Nat.toDigits_ne_nil
      | cons d qs =>
        rw [hq, List.cons_append] at h
        rw [(List.cons.inj h).1] at hq
        have := ih (n / 10) (by omega) hq
        omega

theorem readInteger_toDigits (n : Nat) (hr : Stops rest) :
    readInteger (Nat.toDigits 10 n ++ rest) = some (n, rest) := by
  have hdigits : ∀ c ∈ Nat.toDigits 10 n, c.isDigit = true := by
    intro c hc
    exact Nat.isDigit_of_mem_toDigits (by decide) (by decide) hc
  cases hn : Nat.toDigits 10 n with
  | nil => exact absurd hn Nat.toDigits_ne_nil
  | cons c ds =>
    have hc : c.isDigit = true := hdigits c (by simp [hn])
    have hread : (if c = '0' then (0, ds ++ rest) else readNumber 0 (c :: (ds ++ rest))) =
        (n, rest) := by
      split
      · next hzero =>
        rw [hzero] at hn
        have hn0 := eq_zero_of_toDigits hn
        rw [hn0, Nat.toDigits_zero] at hn
        rw [← (List.cons.inj hn).2, hn0]
        rfl
      · rw [← List.cons_append, ← hn, readNumber_append hdigits 0 hr, Nat.ofDigitChars_ten_toDigits]
    rw [List.cons_append, readInteger]
    simp only [hc, Bool.not_true, Bool.false_eq_true, if_false, hread]
    cases rest with
    | nil => rfl
    | cons d rest =>
      have hd := hr d rest rfl
      rw [continuesNumber] at hd
      simp only [hd, Bool.false_eq_true, if_false]

/-! Values. -/

theorem readValue_append (h : ∀ c ∈ blanks, isSpace c = true) (fuel : Nat) (cs : List Char) :
    readValue fuel (blanks ++ cs) = readValue fuel cs := by
  cases fuel with
  | zero => rfl
  | succ fuel => simp only [readValue, skipSpace_append h]

theorem readItems_gap (fuel : Nat) (cs : List Char) :
    readItems fuel (l.gap depth ++ cs) = readItems fuel cs := by
  cases fuel with
  | zero => rfl
  | succ fuel => simp only [readItems, readValue_append fun _ => isSpace_gap]

theorem readEntries_gap (fuel : Nat) (cs : List Char) :
    readEntries fuel (l.gap depth ++ cs) = readEntries fuel cs := by
  cases fuel with
  | zero => rfl
  | succ fuel => simp only [readEntries, skipSpace_gap]

theorem isSpace_of_isDigit {c : Char} (hc : c.isDigit = true) : isSpace c = false := by
  apply Bool.eq_false_iff.mpr
  intro h
  simp only [isSpace, Bool.or_eq_true, decide_eq_true_eq] at h
  rcases h with ((rfl | rfl) | rfl) | rfl <;> exact absurd hc (by decide)

theorem readValue_digit {c : Char} (hc : c.isDigit = true) (cs : List Char) :
    readValue (fuel + 1) (c :: cs) =
      (readInteger (c :: cs)).map fun r => (.number (r.1 : Int), r.2) := by
  simp only [readValue, skipSpace_cons (isSpace_of_isDigit hc)]
  split
  -- every other kind of value begins with a mark or a letter
  iterate 7
    · next h =>
      rw [(List.cons.inj h).1] at hc
      exact absurd hc (by decide)
  · rfl

theorem readValue_number (i : Int) (hr : Stops rest) :
    readValue (fuel + 1) ((toString i).toList ++ rest) = some (.number i, rest) := by
  rw [Int.toString_eq_repr, Int.repr_eq_if]
  split
  · next hi =>
    rw [Nat.toList_repr]
    have hread := readInteger_toDigits i.toNat hr
    cases hn : Nat.toDigits 10 i.toNat with
    | nil => exact absurd hn Nat.toDigits_ne_nil
    | cons c ds =>
      have hc : c.isDigit = true :=
        Nat.isDigit_of_mem_toDigits (b := 10) (by decide) (by decide) (by rw [hn]; simp)
      rw [List.cons_append, readValue_digit hc, ← List.cons_append, ← hn, hread, Option.map_some,
        Int.toNat_of_nonneg hi]
  · next hi =>
    have hminus : "-".toList = ['-'] := rfl
    have hread := readInteger_toDigits (-i).toNat hr
    have hneg : -((-i).toNat : Int) = i := by omega
    rw [String.toList_append, hminus, Nat.toList_repr, List.cons_append, List.nil_append,
      List.cons_append, readValue]
    simp only [skipSpace_cons (show isSpace '-' = false from rfl), hread, Option.map_some, hneg]

/-- The characters that may begin a value. -/
structure Begins (c : Char) : Prop where
  notSpace : isSpace c = false
  notBracket : c ≠ ']'
  notBrace : c ≠ '\x7d'

theorem begins_digit {c : Char} (hc : c.isDigit = true) : Begins c := by
  refine ⟨isSpace_of_isDigit hc, ?_, ?_⟩
  · rintro rfl
    exact absurd hc (by decide)
  · rintro rfl
    exact absurd hc (by decide)

theorem write_begins (l : Layout) (depth : Nat) (v : Value) :
    ∃ c cs, write l depth v = c :: cs ∧ Begins c := by
  cases v with
  | absent => exact ⟨_, _, rfl, by decide, by decide, by decide⟩
  | flag b => cases b <;> exact ⟨_, _, rfl, by decide, by decide, by decide⟩
  | number i =>
    rw [write, Int.toString_eq_repr, Int.repr_eq_if]
    split
    · rw [Nat.toList_repr]
      cases hn : Nat.toDigits 10 i.toNat with
      | nil => exact absurd hn Nat.toDigits_ne_nil
      | cons c ds =>
        refine ⟨c, ds, rfl, begins_digit ?_⟩
        exact Nat.isDigit_of_mem_toDigits (b := 10) (by decide) (by decide) (by rw [hn]; simp)
    · exact ⟨'-', _, by rw [String.toList_append]; rfl, by decide, by decide, by decide⟩
  | text s => exact ⟨_, _, rfl, by decide, by decide, by decide⟩
  | list items => cases items <;> exact ⟨_, _, rfl, by decide, by decide, by decide⟩
  | mapping entries => cases entries <;> exact ⟨_, _, rfl, by decide, by decide, by decide⟩

theorem write_length_pos (l : Layout) (depth : Nat) (v : Value) :
    0 < (write l depth v).length := by
  obtain ⟨c, cs, hv, -⟩ := write_begins l depth v
  simp [hv]

theorem writeItems_cons (l : Layout) (depth : Nat) (v w : Value) (vs : List Value) :
    writeItems l depth (v :: w :: vs) =
      write l depth v ++ ',' :: (l.gap depth ++ writeItems l depth (w :: vs)) := by
  rw [writeItems]
  · simp
  · simp

theorem writeItems_begins (l : Layout) (depth : Nat) (v : Value) (vs : List Value) :
    ∃ c cs, writeItems l depth (v :: vs) = c :: cs ∧ Begins c := by
  obtain ⟨c, cs, hv, hc⟩ := write_begins l depth v
  cases vs with
  | nil => exact ⟨c, cs, hv, hc⟩
  | cons w vs => exact ⟨c, _, by rw [writeItems_cons, hv]; rfl, hc⟩

theorem writeEntries_begins (l : Layout) (depth : Nat) (e : String × Value)
    (es : List (String × Value)) : ∃ cs, writeEntries l depth (e :: es) = '"' :: cs := by
  cases es with
  | nil => exact ⟨_, rfl⟩
  | cons _ _ => exact ⟨_, rfl⟩

theorem readEntries_last (hl : l.Faithful) {key : String} {v : Value} {cs more : List Char}
    (hv : readValue fuel rest = some (v, more)) (hm : skipSpace more = '\x7d' :: cs) :
    readEntries (fuel + 1) (writeText l key ++ (l.colon ++ rest)) = some ([(key, v)], cs) := by
  obtain ⟨ks, hks, hread⟩ := readText_writeText hl key (l.colon ++ rest)
  obtain ⟨blanks, hcolon, hblanks⟩ := hl.colon
  rw [hcolon, List.cons_append] at hread
  rw [hks, readEntries]
  simp only [skipSpace_cons (show isSpace '"' = false from rfl), hread, Option.bind_some,
    skipSpace_cons (show isSpace ':' = false from rfl), readValue_append hblanks, hv, hm,
    String.ofList_toList]

theorem readEntries_more (hl : l.Faithful) {key : String} {v : Value} {cs more : List Char}
    (hv : readValue fuel rest = some (v, more)) (hm : skipSpace more = ',' :: cs) :
    readEntries (fuel + 1) (writeText l key ++ (l.colon ++ rest)) =
      (readEntries fuel cs).map fun r => ((key, v) :: r.1, r.2) := by
  obtain ⟨ks, hks, hread⟩ := readText_writeText hl key (l.colon ++ rest)
  obtain ⟨blanks, hcolon, hblanks⟩ := hl.colon
  rw [hcolon, List.cons_append] at hread
  rw [hks, readEntries]
  simp only [skipSpace_cons (show isSpace '"' = false from rfl), hread, Option.bind_some,
    skipSpace_cons (show isSpace ':' = false from rfl), readValue_append hblanks, hv, hm,
    String.ofList_toList]

theorem length_writeText (l : Layout) (s : String) : 2 ≤ (writeText l s).length := by
  simp [writeText]

theorem readValue_list {v : Value} {vs : List Value}
    (h : readItems fuel (writeItems l (depth + 1) (v :: vs) ++ (l.gap depth ++ ']' :: rest)) =
      some (v :: vs, rest)) :
    readValue (fuel + 1) (write l depth (.list (v :: vs)) ++ rest) =
      some (.list (v :: vs), rest) := by
  have htext : write l depth (.list (v :: vs)) ++ rest = '[' :: (l.gap (depth + 1)
      ++ (writeItems l (depth + 1) (v :: vs) ++ (l.gap depth ++ ']' :: rest))) := by
    simp [write]
  obtain ⟨c, cs, hc, hbegins⟩ := writeItems_begins l (depth + 1) v vs
  rw [htext, readValue]
  simp only [skipSpace_cons (show isSpace '[' = false from rfl), skipSpace_gap]
  rw [hc, List.cons_append] at h ⊢
  rw [skipSpace_cons hbegins.notSpace]
  split
  · next heq => exact absurd (List.cons.inj heq).1 hbegins.notBracket
  · rw [h, Option.map_some]

theorem readValue_mapping {e : String × Value} {es : List (String × Value)}
    (h : readEntries fuel (writeEntries l (depth + 1) (e :: es)
      ++ (l.gap depth ++ '\x7d' :: rest)) = some (e :: es, rest)) :
    readValue (fuel + 1) (write l depth (.mapping (e :: es)) ++ rest) =
      some (.mapping (e :: es), rest) := by
  have htext : write l depth (.mapping (e :: es)) ++ rest = '\x7b' :: (l.gap (depth + 1)
      ++ (writeEntries l (depth + 1) (e :: es) ++ (l.gap depth ++ '\x7d' :: rest))) := by
    simp [write]
  obtain ⟨cs, hc⟩ := writeEntries_begins l (depth + 1) e es
  rw [htext, readValue]
  simp only [skipSpace_cons (show isSpace '\x7b' = false from rfl), skipSpace_gap]
  rw [hc, List.cons_append] at h ⊢
  rw [skipSpace_cons (show isSpace '"' = false from rfl)]
  split
  · next heq => exact absurd (List.cons.inj heq).1 (by decide)
  · rw [h, Option.map_some]

-- The fuel has to cover the text that is still to be read: every call takes one off it, and has at
-- least one character less before it.
mutual

/-- A value is read back, whatever follows, if there is more fuel than its text is long. -/
theorem readValue_write (hl : l.Faithful) : ∀ (v : Value) (depth fuel : Nat) (rest : List Char),
    (write l depth v).length ≤ fuel → Stops rest →
      readValue (fuel + 1) (write l depth v ++ rest) = some (v, rest)
  | .absent, _, _, _, _, _ => rfl
  | .flag true, _, _, _, _, _ => rfl
  | .flag false, _, _, _, _, _ => rfl
  | .number i, _, _, _, _, hr => readValue_number i hr
  | .text s, depth, fuel, rest, _, _ => by
    obtain ⟨cs, hcs, hread⟩ := readText_writeText hl s rest
    rw [write, hcs, readValue]
    simp only [skipSpace_cons (show isSpace '"' = false from rfl), hread, Option.map_some,
      String.ofList_toList]
  | .list [], _, _, _, _, _ => rfl
  | .list (v :: vs), depth, fuel, rest, hf, _ => by
    have hlength : (writeItems l (depth + 1) (v :: vs)).length + 1 < fuel := by
      simp [write] at hf
      omega
    exact readValue_list (readItems_write hl v vs (depth + 1) depth fuel rest hlength)
  | .mapping [], _, _, _, _, _ => rfl
  | .mapping (e :: es), depth, fuel, rest, hf, _ => by
    have hlength : (writeEntries l (depth + 1) (e :: es)).length + 1 < fuel := by
      simp [write] at hf
      omega
    exact readValue_mapping (readEntries_write hl e es (depth + 1) depth fuel rest hlength)
termination_by v => sizeOf v

theorem readItems_write (hl : l.Faithful) : ∀ (v : Value) (vs : List Value) (depth outer fuel : Nat)
    (rest : List Char), (writeItems l depth (v :: vs)).length + 1 < fuel →
      readItems fuel (writeItems l depth (v :: vs) ++ (l.gap outer ++ ']' :: rest)) =
        some (v :: vs, rest)
  | v, [], depth, outer, fuel, rest, hf => by
    obtain ⟨k, rfl⟩ : ∃ k, fuel = k + 2 := ⟨fuel - 2, by omega⟩
    rw [writeItems] at hf ⊢
    have hv := readValue_write hl v depth k (l.gap outer ++ ']' :: rest) (by omega)
      (stops_gap rfl rest)
    simp only [readItems, hv, Option.bind_some, skipSpace_gap,
      skipSpace_cons (show isSpace ']' = false from rfl)]
  | v, w :: vs, depth, outer, fuel, rest, hf => by
    obtain ⟨k, rfl⟩ : ∃ k, fuel = k + 2 := ⟨fuel - 2, by omega⟩
    have htext : writeItems l depth (v :: w :: vs) ++ (l.gap outer ++ ']' :: rest) =
        write l depth v ++ ',' :: (l.gap depth
          ++ (writeItems l depth (w :: vs) ++ (l.gap outer ++ ']' :: rest))) := by
      simp [writeItems]
    have hlength : (write l depth v).length + (writeItems l depth (w :: vs)).length ≤ k := by
      simp [writeItems] at hf
      omega
    have hv := readValue_write hl v depth k (',' :: (l.gap depth
      ++ (writeItems l depth (w :: vs) ++ (l.gap outer ++ ']' :: rest)))) (by omega)
      (stops_cons rfl _)
    have hpos := write_length_pos l depth v
    have hitems := readItems_write hl w vs depth outer (k + 1) rest (by omega)
    rw [htext, readItems, hv]
    simp only [Option.bind_some, skipSpace_cons (show isSpace ',' = false from rfl), readItems_gap,
      hitems, Option.map_some]
termination_by v vs => 1 + sizeOf v + sizeOf vs

theorem readEntries_write (hl : l.Faithful) : ∀ (e : String × Value) (es : List (String × Value))
    (depth outer fuel : Nat) (rest : List Char),
      (writeEntries l depth (e :: es)).length + 1 < fuel →
      readEntries fuel (writeEntries l depth (e :: es) ++ (l.gap outer ++ '\x7d' :: rest)) =
        some (e :: es, rest)
  | (key, v), [], depth, outer, fuel, rest, hf => by
    obtain ⟨k, rfl⟩ : ∃ k, fuel = k + 2 := ⟨fuel - 2, by omega⟩
    have htext : writeEntries l depth [(key, v)] ++ (l.gap outer ++ '\x7d' :: rest) =
        writeText l key ++ (l.colon ++ (write l depth v ++ (l.gap outer ++ '\x7d' :: rest))) := by
      simp [writeEntries]
    have hv := readValue_write hl v depth k (l.gap outer ++ '\x7d' :: rest)
      (by simp [writeEntries] at hf; omega) (stops_gap rfl rest)
    rw [htext]
    exact readEntries_last hl hv (skipSpace_gap _)
  | (key, v), e :: es, depth, outer, fuel, rest, hf => by
    obtain ⟨k, rfl⟩ : ∃ k, fuel = k + 2 := ⟨fuel - 2, by omega⟩
    have htext : writeEntries l depth ((key, v) :: e :: es) ++ (l.gap outer ++ '\x7d' :: rest) =
        writeText l key ++ (l.colon ++ (write l depth v ++ ',' :: (l.gap depth
          ++ (writeEntries l depth (e :: es) ++ (l.gap outer ++ '\x7d' :: rest))))) := by
      simp [writeEntries]
    have hkey := length_writeText l key
    have hlength : (write l depth v).length + (writeEntries l depth (e :: es)).length + 1 < k := by
      simp [writeEntries] at hf
      omega
    have hv := readValue_write hl v depth k (',' :: (l.gap depth
      ++ (writeEntries l depth (e :: es) ++ (l.gap outer ++ '\x7d' :: rest)))) (by omega)
      (stops_cons rfl _)
    have hentries := readEntries_write hl e es depth outer (k + 1) rest (by omega)
    have hcomma : skipSpace (',' :: (l.gap depth ++ (writeEntries l depth (e :: es)
        ++ (l.gap outer ++ '\x7d' :: rest)))) = _ := skipSpace_cons rfl _
    rw [htext, readEntries_more hl hv hcomma, readEntries_gap, hentries, Option.map_some]
termination_by e es => 1 + sizeOf e + sizeOf es

end

theorem stops_blanks (h : ∀ c ∈ blanks, isSpace c = true) : Stops blanks := by
  rintro c cs rfl
  have hc := h c List.mem_cons_self
  simp only [isSpace, Bool.or_eq_true, decide_eq_true_eq] at hc
  rcases hc with ((rfl | rfl) | rfl) | rfl <;> rfl

/-- The text of a value is read as the value, also with blanks after it. -/
theorem read_text (hl : l.Faithful) (v : Value) {after : String}
    (h : ∀ c ∈ after.toList, isSpace c = true) : read (text l v ++ after) = some v := by
  have htext : (text l v ++ after).toList = write l 0 v ++ after.toList := by
    rw [String.toList_append, text, String.toList_ofList]
  have hvalue := readValue_write hl v 0 (write l 0 v ++ after.toList).length after.toList
    (by simp) (stops_blanks h)
  have hend : skipSpace after.toList = [] := by simpa [skipSpace] using skipSpace_append h []
  rw [read, htext, hvalue, Option.bind_some, if_pos hend]

end PanelConfig.Json
