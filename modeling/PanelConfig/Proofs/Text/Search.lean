import PanelConfig.BaseFolder
import PanelConfig.Proofs.Text.LowerCase

/-! Where a word stands in a text. Main statements: a plain word that does not end in an i stands in
the full lower case of a text exactly where it stands in the lower case of its ASCII letters; and
words that are joined behind a separator stand in a text exactly where they are pieces of it, one
after another, that are not the first. -/

namespace PanelConfig.Text

variable {w : List Char} {sep : Char}

theorem occursIn_iff {part cs : List Char} :
    BaseFolder.occursIn part cs = true ↔ part <:+: cs := by
  induction cs with
  | nil => rw [BaseFolder.occursIn, List.isEmpty_iff, List.infix_nil]
  | cons c cs ih =>
    rw [BaseFolder.occursIn, Bool.or_eq_true, List.isPrefixOf_iff_prefix, ih, List.infix_cons_iff]

/-! Words in the lower case of a text. -/

/-- The characters of the word are plain, and the last one is no i. An i at the end could be the
first part of a character that becomes two. -/
structure IsSearchable (w : List Char) : Prop where
  plain : ∀ c ∈ w, IsPlain c
  last : w.getLast? ≠ some 'i'

instance (w : List Char) : Decidable (IsSearchable w) :=
  have : Decidable (∀ c ∈ w, IsPlain c) := List.decidableBAll IsPlain w
  decidable_of_iff ((∀ c ∈ w, IsPlain c) ∧ w.getLast? ≠ some 'i')
    ⟨fun h => ⟨h.1, h.2⟩, fun h => ⟨h.plain, h.last⟩⟩

theorem IsSearchable.tail {d : Char} (h : IsSearchable (d :: w)) : IsSearchable w := by
  refine ⟨fun c hc => h.plain c (List.mem_cons_of_mem d hc), ?_⟩
  cases w with
  | nil => simp
  | cons e w => rw [← List.getLast?_cons_cons]; exact h.last

theorem IsSearchable.not_prefix (hw : IsSearchable w) (hne : w ≠ []) {front : List Char} {e : Char}
    (hfront : front = [] ∨ front = ['i']) (he : ¬IsPlain e) (rest : List Char) :
    ¬w <+: front ++ e :: rest := by
  intro h
  obtain ⟨d, w, rfl⟩ := List.exists_cons_of_ne_nil hne
  rcases hfront with rfl | rfl
  · obtain ⟨rfl, -⟩ := List.cons_prefix_cons.mp h
    exact he (hw.plain d List.mem_cons_self)
  · obtain ⟨rfl, hrest⟩ := List.cons_prefix_cons.mp h
    cases w with
    | nil => exact hw.last rfl
    | cons d w =>
      obtain ⟨rfl, -⟩ := List.cons_prefix_cons.mp hrest
      exact he (hw.plain d (by simp))

theorem IsSearchable.infix_append_iff (hw : IsSearchable w) (hne : w ≠ []) {front : List Char}
    {e : Char} (hfront : front = [] ∨ front = ['i']) (he : ¬IsPlain e) (rest : List Char) :
    w <:+: front ++ e :: rest ↔ w <:+: rest := by
  have hlast : ¬w <+: e :: rest := hw.not_prefix hne (.inl rfl) he rest
  rcases hfront with rfl | rfl
  · rw [List.nil_append, List.infix_cons_iff, or_iff_right hlast]
  · have hfirst : ¬w <+: 'i' :: e :: rest := hw.not_prefix hne (.inr rfl) he rest
    rw [List.singleton_append, List.infix_cons_iff, List.infix_cons_iff, or_iff_right hfirst,
      or_iff_right hlast]

theorem IsSearchable.prefix_lowerAfter_iff (hw : IsSearchable w) (before cs : List Char) :
    w <+: lowerAfter before cs ↔ w <+: cs.map Char.toLower := by
  induction cs generalizing before w with
  | nil => rfl
  | cons c cs ih =>
    cases w with
    | nil => simp
    | cons d w =>
      rw [lowerAfter, List.map_cons]
      rcases Nat.lt_or_ge c.toNat 0x80 with hc | hc
      · rw [lowerBetween_of_ascii hc, List.singleton_append, List.cons_prefix_cons,
          List.cons_prefix_cons, ih hw.tail]
      · obtain ⟨front, e, hlow, hfront, he⟩ := lowerBetween_of_not_ascii hc before cs
        rw [hlow, List.append_assoc, List.singleton_append, toLower_of_not_capital (by omega)]
        have hne : d :: w ≠ [] := List.cons_ne_nil d w
        exact iff_of_false (hw.not_prefix hne hfront he _)
          (hw.not_prefix hne (.inl rfl) (not_isPlain_of_not_ascii hc) _)

/-- The full lower case of a text shows such a word nowhere but where the case of ASCII letters
does. -/
theorem IsSearchable.infix_lowerAfter_iff (hw : IsSearchable w) (hne : w ≠ [])
    (before cs : List Char) : w <:+: lowerAfter before cs ↔ w <:+: cs.map Char.toLower := by
  induction cs generalizing before with
  | nil => rfl
  | cons c cs ih =>
    rcases Nat.lt_or_ge c.toNat 0x80 with hc | hc
    · have hprefix := hw.prefix_lowerAfter_iff before (c :: cs)
      rw [lowerAfter, lowerBetween_of_ascii hc, List.singleton_append, List.map_cons] at hprefix ⊢
      rw [List.infix_cons_iff, List.infix_cons_iff, hprefix, ih]
    · obtain ⟨front, e, hlow, hfront, he⟩ := lowerBetween_of_not_ascii hc before cs
      rw [lowerAfter, hlow, List.append_assoc, List.singleton_append, List.map_cons,
        toLower_of_not_capital (by omega), hw.infix_append_iff hne hfront he, ih]
      exact (hw.infix_append_iff hne (.inl rfl) (not_isPlain_of_not_ascii hc) _).symm

/-! Words between separators. -/

theorem prefix_append_cons_iff (h : sep ∉ w) (p q : List Char) : w <+: p ++ sep :: q ↔ w <+: p := by
  induction p generalizing w with
  | nil =>
    cases w with
    | nil => simp
    | cons d w =>
      rw [List.nil_append, List.cons_prefix_cons]
      exact iff_of_false (fun hd => h (hd.1 ▸ List.mem_cons_self)) (by simp)
  | cons c p ih =>
    cases w with
    | nil => simp
    | cons d w =>
      rw [List.cons_append, List.cons_prefix_cons, List.cons_prefix_cons,
        ih fun hw => h (List.mem_cons_of_mem d hw)]

theorem eq_nil_of_prefix_cons {q : List Char} (h : sep ∉ w) (hw : w <+: sep :: q) : w = [] :=
  List.prefix_nil.mp ((prefix_append_cons_iff h [] q).mp hw)

/-- A word does not reach over a character that it does not hold. -/
theorem infix_append_cons_iff (h : sep ∉ w) (p q : List Char) :
    w <:+: p ++ sep :: q ↔ w <:+: p ∨ w <:+: q := by
  constructor
  · intro hinside
    rcases List.infix_append_iff.mp hinside with hp | hq | ⟨u, v, rfl, hu, hv⟩
    · exact .inl hp
    · rcases List.infix_cons_iff.mp hq with hprefix | hq
      · rw [eq_nil_of_prefix_cons h hprefix]
        exact .inl List.nil_infix
      · exact .inr hq
    · rw [eq_nil_of_prefix_cons (fun hv => h (List.mem_append_right u hv)) hv, List.append_nil]
      exact .inl hu.isInfix
  · rintro (hp | ⟨front, back, rfl⟩)
    · exact hp.trans (List.prefix_append p _).isInfix
    · exact ⟨p ++ sep :: front, back, by simp⟩

theorem append_cons_prefix_iff {p j q : List Char} (hw : sep ∉ w) (hp : sep ∉ p) :
    w ++ sep :: j <+: p ++ sep :: q ↔ w = p ∧ j <+: q := by
  induction w generalizing p with
  | nil =>
    cases p with
    | nil => simp
    | cons c p =>
      rw [List.nil_append, List.cons_append, List.cons_prefix_cons]
      exact iff_of_false (fun hc => hp (hc.1 ▸ List.mem_cons_self)) nofun
  | cons d w ih =>
    cases p with
    | nil =>
      rw [List.nil_append, List.cons_append, List.cons_prefix_cons]
      exact iff_of_false (fun hc => hw (hc.1 ▸ List.mem_cons_self)) nofun
    | cons c p =>
      rw [List.cons_append, List.cons_append, List.cons_prefix_cons, List.cons.injEq, and_assoc,
        ih (fun h => hw (List.mem_cons_of_mem d h)) fun h => hp (List.mem_cons_of_mem c h)]

/-- Joined words open a text where they are its first pieces, the last of them the front of one. -/
theorem intercalate_prefix_iff {ws : List (List Char)} {u : List Char} (hws : ∀ w ∈ ws, sep ∉ w)
    (hu : sep ∉ u) (cs : List Char) :
    [sep].intercalate (ws ++ [u]) <+: cs ↔ ∃ q qs, cs.splitOn sep = ws ++ q :: qs ∧ u <+: q := by
  induction ws generalizing cs with
  | nil =>
    by_cases hcs : sep ∈ cs
    · obtain ⟨p, rest, rfl, hp⟩ := List.eq_append_cons_of_mem hcs
      rw [List.splitOn_append_cons_self_of_not_mem hp]
      simp [prefix_append_cons_iff hu]
    · rw [List.splitOn_eq_singleton hcs]
      simp
  | cons w ws ih =>
    have hw : sep ∉ w := hws w List.mem_cons_self
    rw [List.cons_append, List.intercalate_cons_of_ne_nil (by simp), List.append_assoc,
      List.singleton_append]
    by_cases hcs : sep ∈ cs
    · obtain ⟨p, rest, rfl, hp⟩ := List.eq_append_cons_of_mem hcs
      rw [append_cons_prefix_iff hw hp, List.splitOn_append_cons_self_of_not_mem hp,
        ih (fun x hx => hws x (List.mem_cons_of_mem w hx))]
      simp [@eq_comm _ w p, and_assoc]
    · rw [List.splitOn_eq_singleton hcs]
      refine iff_of_false (fun h => hcs (h.subset (by simp))) ?_
      simp

/-- What stands after a separator has the pieces of the text from some piece on that is not the
first. -/
theorem drop_splitOn_iff {cs : List Char} {ps : List (List Char)} :
    (∃ i, 1 ≤ i ∧ i < (cs.splitOn sep).length ∧ (cs.splitOn sep).drop i = ps) ↔
      ∃ front rest, cs = front ++ sep :: rest ∧ rest.splitOn sep = ps := by
  constructor
  · rintro ⟨i, hi, hlt, rfl⟩
    induction i generalizing cs with
    | zero => omega
    | succ i ih =>
      by_cases hcs : sep ∈ cs
      · obtain ⟨p, rest, rfl, hp⟩ := List.eq_append_cons_of_mem hcs
        rw [List.splitOn_append_cons_self_of_not_mem hp, List.length_cons] at hlt
        rw [List.splitOn_append_cons_self_of_not_mem hp, List.drop_succ_cons]
        cases i with
        | zero => exact ⟨p, rest, rfl, rfl⟩
        | succ i =>
          have hrest : i + 1 < (rest.splitOn sep).length := by omega
          obtain ⟨front, last, rfl, hlast⟩ := ih (by omega) hrest
          exact ⟨p ++ sep :: front, last, by simp, hlast⟩
      · rw [List.splitOn_eq_singleton hcs, List.length_singleton] at hlt
        omega
  · rintro ⟨front, rest, rfl, rfl⟩
    rw [List.splitOn_append_cons_self]
    have hfront := List.length_pos_iff.mpr (List.splitOn_ne_nil sep front)
    have hrest := List.length_pos_iff.mpr (List.splitOn_ne_nil sep rest)
    refine ⟨(front.splitOn sep).length, hfront, ?_, List.drop_left⟩
    rw [List.length_append]
    omega

/-- Words that are joined behind a separator stand in a text where they are pieces of it that follow
one another, the first of them not the first of all and the last of them the front of one. -/
theorem intercalate_infix_iff {ws : List (List Char)} {u : List Char} (hws : ∀ w ∈ ws, sep ∉ w)
    (hu : sep ∉ u) (cs : List Char) :
    sep :: [sep].intercalate (ws ++ [u]) <:+: cs ↔
      ∃ i, 1 ≤ i ∧ ∃ q qs, (cs.splitOn sep).drop i = ws ++ q :: qs ∧ u <+: q := by
  have hinside : sep :: [sep].intercalate (ws ++ [u]) <:+: cs ↔
      ∃ front rest, cs = front ++ sep :: rest ∧ [sep].intercalate (ws ++ [u]) <+: rest := by
    constructor
    · rintro ⟨front, back, rfl⟩
      exact ⟨front, [sep].intercalate (ws ++ [u]) ++ back, by simp, List.prefix_append _ _⟩
    · rintro ⟨front, -, rfl, back, rfl⟩
      exact ⟨front, back, by simp⟩
  rw [hinside]
  constructor
  · rintro ⟨front, rest, hcs, hprefix⟩
    obtain ⟨q, qs, hrest, hq⟩ := (intercalate_prefix_iff hws hu rest).mp hprefix
    obtain ⟨i, hi, -, hdrop⟩ := drop_splitOn_iff.mpr ⟨front, rest, hcs, hrest⟩
    exact ⟨i, hi, q, qs, hdrop, hq⟩
  · rintro ⟨i, hi, q, qs, hdrop, hq⟩
    have hlt : i < (cs.splitOn sep).length := by
      have hlength := congrArg List.length hdrop
      rw [List.length_drop, List.length_append, List.length_cons] at hlength
      omega
    obtain ⟨front, rest, hcs, hrest⟩ := drop_splitOn_iff.mp ⟨i, hi, hlt, hdrop⟩
    exact ⟨front, rest, hcs, (intercalate_prefix_iff hws hu rest).mpr ⟨q, qs, hrest, hq⟩⟩

end PanelConfig.Text
