import PanelConfig.Level
import PanelConfig.Proofs.Text.LowerCase

/-! What the names of the levels stand for, told apart from the table in which they are looked up.
Main statements: a text stands for a severity exactly where it is a name of that severity but for
the case of ASCII letters, and a choice of any other text puts information into effect. -/

namespace PanelConfig

namespace Text

variable {s w : String} {c : Char}

/-- A word in small ASCII letters, none of them a k. -/
def IsKeyword (w : String) : Prop :=
  ∀ c ∈ w.toList, 0x61 ≤ c.toNat ∧ c.toNat ≤ 0x7A ∧ c ≠ 'k'

instance (w : String) : Decidable (IsKeyword w) :=
  List.decidableBAll (fun c : Char => 0x61 ≤ c.toNat ∧ c.toNat ≤ 0x7A ∧ c ≠ 'k') w.toList

theorem IsKeyword.map_toLower (hw : IsKeyword w) : w.toList.map Char.toLower = w.toList := by
  calc w.toList.map Char.toLower
    _ = w.toList.map id := List.map_congr_left fun c hc =>
      toLower_of_not_capital (.inr (by have := hw c hc; omega))
    _ = w.toList := List.map_id _

/-- The full lower case tells a keyword no other way than the case of ASCII letters does. -/
theorem IsKeyword.lower_eq_iff (hw : IsKeyword w) : lower s = w ↔ SameLetters s w :=
  Text.lower_eq_iff (fun c hc => ⟨by have := hw c hc; omega, (hw c hc).2.2⟩) hw.map_toLower

/-- The variants of a keyword consist of ASCII letters. -/
theorem IsKeyword.letters (hw : IsKeyword w) (h : SameLetters s w) (hc : c ∈ s.toList) :
    0x41 ≤ c.toNat ∧ c.toNat ≤ 0x7A := by
  by_cases hcapital : 0x41 ≤ c.toNat ∧ c.toNat ≤ 0x5A
  · omega
  · have hself : c.toLower = c := toLower_of_not_capital (by omega)
    have hmem : c ∈ w.toList := by
      rw [← hw.map_toLower, ← h]
      exact List.mem_map.mpr ⟨c, hc, hself⟩
    have := hw c hmem
    omega

end Text

open Text

/-- The text is one of the five names but for the case of ASCII letters, and the severity is the one
that the name stands for. A notice counts as information. -/
inductive NamesSeverity (s : String) : Severity → Prop
  | debug : SameLetters s "debug" → NamesSeverity s .debug
  | info : SameLetters s "info" → NamesSeverity s .info
  | notice : SameLetters s "notice" → NamesSeverity s .info
  | warning : SameLetters s "warning" → NamesSeverity s .warning
  | error : SameLetters s "error" → NamesSeverity s .error

theorem Level.isKeyword_text (l : Level) : IsKeyword l.text := by
  cases l <;> decide

theorem Level.find?_text (l : Level) : all.find? (fun x => x.text = l.text) = some l := by
  cases l <;> decide

/-- A text names a level where it is the name of the level but for the case of its letters. -/
theorem Level.ofText?_eq_some_iff {s : String} {l : Level} :
    ofText? s = some l ↔ SameLetters s l.text := by
  rw [← l.isKeyword_text.lower_eq_iff, ofText?]
  constructor
  · intro h
    have hl := List.find?_some h
    exact (of_decide_eq_true hl).symm
  · intro h
    rw [h]
    exact l.find?_text

namespace LevelChoice

variable {s : String} {severity : Severity}

theorem severity?_eq_some_iff :
    (written s).severity? = some severity ↔ NamesSeverity s severity := by
  rw [severity?, Option.map_eq_some_iff]
  constructor
  · rintro ⟨l, hl, rfl⟩
    have hs := Level.ofText?_eq_some_iff.mp hl
    cases l with
    | debug => exact .debug hs
    | info => exact .info hs
    | notice => exact .notice hs
    | warning => exact .warning hs
    | error => exact .error hs
  · intro h
    cases h with
    | debug hs => exact ⟨.debug, Level.ofText?_eq_some_iff.mpr hs, rfl⟩
    | info hs => exact ⟨.info, Level.ofText?_eq_some_iff.mpr hs, rfl⟩
    | notice hs => exact ⟨.notice, Level.ofText?_eq_some_iff.mpr hs, rfl⟩
    | warning hs => exact ⟨.warning, Level.ofText?_eq_some_iff.mpr hs, rfl⟩
    | error hs => exact ⟨.error, Level.ofText?_eq_some_iff.mpr hs, rfl⟩

theorem severity?_eq_none_iff :
    (written s).severity? = none ↔ ∀ severity, ¬NamesSeverity s severity := by
  rw [Option.eq_none_iff_forall_ne_some]
  exact forall_congr' fun _ => not_congr severity?_eq_some_iff

theorem applied_of_names (h : NamesSeverity s severity) : (written s).applied = severity := by
  rw [applied, severity?_eq_some_iff.mpr h, Option.getD_some]

/-- A text that names no severity puts information into effect. -/
theorem applied_of_not (h : ∀ severity, ¬NamesSeverity s severity) :
    (written s).applied = .info := by
  rw [applied, severity?_eq_none_iff.mpr h, Option.getD_none]

end LevelChoice

end PanelConfig
