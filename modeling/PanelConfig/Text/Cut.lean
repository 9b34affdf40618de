/-! Taking a mark off the front or the end of a list of characters, and cutting the list in two at a
mark, which is left out. -/

namespace PanelConfig.Text

/-- What stands after `mark`, if `cs` starts with it. -/
def after? (mark cs : List Char) : Option (List Char) :=
  if mark.isPrefixOf cs then some (cs.drop mark.length) else none

/-- What stands before `mark`, if `cs` ends with it. -/
def before? (mark cs : List Char) : Option (List Char) :=
  if mark.isSuffixOf cs then some (cs.take (cs.length - mark.length)) else none

/-- What stands before and after the first place at which `mark` stands. -/
def cutAt? (mark : List Char) : List Char → Option (List Char × List Char)
  | [] => (after? mark []).map fun rest => ([], rest)
  | c :: cs =>
    match after? mark (c :: cs) with
    | some rest => some ([], rest)
    | none => (cutAt? mark cs).map fun r => (c :: r.1, r.2)

/-- What stands before and after the last `mark`. -/
def cutAtLast? (mark : Char) (cs : List Char) : Option (List Char × List Char) :=
  (cutAt? [mark] cs.reverse).map fun r => (r.2.reverse, r.1.reverse)

theorem after?_append (mark cs : List Char) : after? mark (mark ++ cs) = some cs := by
  simp [after?]

theorem before?_append (mark cs : List Char) : before? mark (cs ++ mark) = some cs := by
  simp [before?]

theorem after?_cons_of_ne {a c : Char} (h : a ≠ c) (mark cs : List Char) :
    after? (a :: mark) (c :: cs) = none := by
  simp [after?, List.cons_prefix_cons, h]

theorem eq_append_of_after? {mark cs rest : List Char} (h : after? mark cs = some rest) :
    cs = mark ++ rest := by
  rw [after?] at h
  split at h
  · next hp =>
    obtain ⟨tail, rfl⟩ := List.isPrefixOf_iff_prefix.mp hp
    rw [List.drop_left] at h
    rw [Option.some.inj h]
  · cases h

theorem after?_eq_some_iff {mark cs rest : List Char} :
    after? mark cs = some rest ↔ cs = mark ++ rest :=
  ⟨eq_append_of_after?, fun h => h ▸ after?_append mark rest⟩

theorem before?_eq_some_iff {mark cs rest : List Char} :
    before? mark cs = some rest ↔ cs = rest ++ mark := by
  refine ⟨fun h => ?_, fun h => h ▸ before?_append mark rest⟩
  rw [before?] at h
  split at h
  · next hs =>
    obtain ⟨front, rfl⟩ := List.isSuffixOf_iff_suffix.mp hs
    rw [List.length_append, Nat.add_sub_cancel, List.take_left] at h
    rw [Option.some.inj h]
  · cases h

theorem eq_append_of_cutAt? {mark cs p q : List Char} (h : cutAt? mark cs = some (p, q)) :
    cs = p ++ mark ++ q := by
  induction cs generalizing p with
  | nil =>
    rw [cutAt?] at h
    obtain ⟨rest, hrest, heq⟩ := Option.map_eq_some_iff.mp h
    cases heq
    exact eq_append_of_after? hrest
  | cons c cs ih =>
    rw [cutAt?] at h
    split at h
    · next rest hrest =>
      cases h
      exact eq_append_of_after? hrest
    · obtain ⟨⟨front, back⟩, hcut, heq⟩ := Option.map_eq_some_iff.mp h
      cases heq
      rw [ih hcut, List.cons_append, List.cons_append]

/-- A mark that opens with a character not met before is found where it stands. -/
theorem cutAt?_append_mark {a : Char} {p : List Char} (h : a ∉ p) (mark q : List Char) :
    cutAt? (a :: mark) (p ++ a :: (mark ++ q)) = some (p, q) := by
  induction p with
  | nil =>
    have hmark := after?_append (a :: mark) q
    rw [List.cons_append] at hmark
    rw [List.nil_append, cutAt?, hmark]
  | cons c p ih =>
    rw [List.mem_cons, not_or] at h
    rw [List.cons_append, cutAt?, after?_cons_of_ne h.1, ih h.2]
    rfl

theorem cutAt?_append {a : Char} {p : List Char} (h : a ∉ p) (q : List Char) :
    cutAt? [a] (p ++ a :: q) = some (p, q) :=
  cutAt?_append_mark h [] q

theorem cutAt?_of_notMem {a : Char} {p : List Char} (h : a ∉ p) (mark : List Char) :
    cutAt? (a :: mark) p = none := by
  induction p with
  | nil => rfl
  | cons c p ih =>
    rw [List.mem_cons, not_or] at h
    rw [cutAt?, after?_cons_of_ne h.1, ih h.2]
    rfl

theorem notMem_of_cutAt? {a : Char} {cs p q : List Char} (h : cutAt? [a] cs = some (p, q)) :
    a ∉ p := by
  induction cs generalizing p with
  | nil => cases h
  | cons c cs ih =>
    rw [cutAt?] at h
    split at h
    · cases h
      exact List.not_mem_nil
    · next hmark =>
      obtain ⟨⟨front, back⟩, hcut, heq⟩ := Option.map_eq_some_iff.mp h
      cases heq
      have hne : a ≠ c := by
        rintro rfl
        exact absurd (after?_append [a] cs) (by rw [List.singleton_append, hmark]; nofun)
      rw [List.mem_cons, not_or]
      exact ⟨hne, ih hcut⟩

/-- Cutting at a character leaves what stands before its first place. -/
theorem cutAt?_eq_some_iff {a : Char} {cs p q : List Char} :
    cutAt? [a] cs = some (p, q) ↔ cs = p ++ a :: q ∧ a ∉ p := by
  refine ⟨fun h => ⟨?_, notMem_of_cutAt? h⟩, fun ⟨hcs, hp⟩ => hcs ▸ cutAt?_append hp q⟩
  have hcs := eq_append_of_cutAt? h
  rwa [List.append_assoc, List.singleton_append] at hcs

theorem cutAtLast?_append {a : Char} {q : List Char} (h : a ∉ q) (p : List Char) :
    cutAtLast? a (p ++ a :: q) = some (p, q) := by
  have hcut := cutAt?_append (p := q.reverse) (by rwa [List.mem_reverse]) p.reverse
  simp [cutAtLast?, hcut]

/-- Cutting at the last place of a character leaves what stands after it. -/
theorem cutAtLast?_eq_some_iff {a : Char} {cs p q : List Char} :
    cutAtLast? a cs = some (p, q) ↔ cs = p ++ a :: q ∧ a ∉ q := by
  refine ⟨fun h => ?_, fun ⟨hcs, hq⟩ => hcs ▸ cutAtLast?_append hq p⟩
  obtain ⟨⟨back, front⟩, hcut, heq⟩ := Option.map_eq_some_iff.mp h
  cases heq
  obtain ⟨hcs, hq⟩ := cutAt?_eq_some_iff.mp hcut
  constructor
  · rw [← List.reverse_reverse cs, hcs]
    simp
  · rwa [List.mem_reverse]

end PanelConfig.Text
