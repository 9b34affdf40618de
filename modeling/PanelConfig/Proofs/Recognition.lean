import PanelConfig.Proofs.LevelNames
import PanelConfig.Proofs.Validation

/-! Which texts are recognised as the name of a level or as that of MySQL. The text is put in the
lower case of Unicode before it is compared. Main statement: it is recognised exactly where it
differs from a name in nothing but the case of ASCII letters, so that no other character is ever let
through. -/

namespace PanelConfig

namespace Text

variable {s w : String} {c : Char}

theorem not_isBlank_of_letter (h : 0x41 ≤ c.toNat ∧ c.toNat ≤ 0x7A) : isBlank c = false := by
  have hranges : ∀ r ∈ blankRanges, r.2 < 0x41 ∨ 0x7A < r.1 := by decide
  exact covers_eq_false hranges h.1 h.2

theorem trim_eq_self (h : ∀ c ∈ s.toList, isBlank c = false) : trim s = s := by
  rw [trim, trimWhere_of_all h, String.ofList_toList]

/-- Some character is not ASCII, or there are blanks at an end. -/
def IsForeign (s : String) : Prop := (∃ c ∈ s.toList, 0x80 ≤ c.toNat) ∨ trim s ≠ s

theorem IsForeign.not_sameLetters (h : IsForeign s) (hw : IsKeyword w) : ¬SameLetters s w := by
  intro hs
  rcases h with ⟨c, hc, hascii⟩ | htrim
  · have := hw.letters hs hc
    omega
  · exact htrim (trim_eq_self fun c hc => not_isBlank_of_letter (hw.letters hs hc))

end Text

open Text

theorem DatabaseSettings.isKeyword_mysql : IsKeyword mysql := by decide

theorem Text.IsForeign.not_namesSeverity {s : String} (h : IsForeign s) (severity : Severity) :
    ¬NamesSeverity s severity := by
  intro hs
  cases hs with
  | debug hs | info hs | notice hs | warning hs | error hs => exact h.not_sameLetters (by decide) hs

namespace Machine

variable {m : Machine}

theorem connection_eq_mysql_iff {x : DatabaseSettings} (h : m.databaseSettings = .ok x) :
    x.connection = "mysql" ↔ SameLetters (m.environment.value .connection) "mysql" := by
  have hlacks : ¬m.environment.LacksServer := by
    intro hl
    rw [databaseSettings_of_lacksServer hl] at h
    cases h
  rw [databaseSettings_of_not hlacks] at h
  cases h
  exact DatabaseSettings.isKeyword_mysql.lower_eq_iff

/-- Only settings of MySQL are refused. -/
theorem sameLetters_of_lacksServer (h : m.environment.LacksServer) :
    SameLetters (m.environment.value .connection) "mysql" :=
  DatabaseSettings.isKeyword_mysql.lower_eq_iff.mp h.mysql

theorem databaseSettings_of_isForeign (h : IsForeign (m.environment.value .connection)) :
    ∃ x, m.databaseSettings = .ok x ∧ x.connection ≠ "mysql" := by
  have hne := h.not_sameLetters DatabaseSettings.isKeyword_mysql
  have hok := databaseSettings_of_not (hne ∘ sameLetters_of_lacksServer)
  exact ⟨_, hok, fun hc => hne ((connection_eq_mysql_iff hok).mp hc)⟩

/-- A text names a level or MySQL exactly where it is the name but for the case of ASCII letters,
and it then stands for what the name stands for, a notice for information. A text with a character
that is not ASCII, or with blanks at an end, names neither: the database is then taken for a file.
-/
theorem recognised_iff_sameLetters (s : String) :
    (∀ severity, (LevelChoice.written s).severity? = some severity ↔ NamesSeverity s severity) ∧
      (∀ m : Machine, m.environment.value .connection = s →
        (∀ x, m.databaseSettings = .ok x → (x.connection = "mysql" ↔ SameLetters s "mysql")) ∧
        (∀ e, m.databaseSettings = .error e → SameLetters s "mysql")) ∧
      (IsForeign s → (LevelChoice.written s).severity? = none ∧
        ∀ m : Machine, m.environment.value .connection = s →
          ∃ x, m.databaseSettings = .ok x ∧ x.connection ≠ "mysql") := by
  refine ⟨fun _ => LevelChoice.severity?_eq_some_iff, ?_, fun hforeign => ⟨?_, ?_⟩⟩
  · rintro m rfl
    exact ⟨fun x hx => connection_eq_mysql_iff hx,
      fun e he => sameLetters_of_lacksServer (databaseSettings_eq_error_iff.mp he).1⟩
  · exact LevelChoice.severity?_eq_none_iff.mpr hforeign.not_namesSeverity
  · rintro m rfl
    exact databaseSettings_of_isForeign hforeign

/-- The machine with a connection set and nothing else. -/
def connectedTo (m : Machine) (connection : String) : Machine :=
  { m with environment := ⟨[("XUI_DB_CONNECTION", connection)]⟩ }

/-- Capitals are let through, but a long s is not, although its own capital is an ASCII letter. -/
theorem recognised_iff_sameLetters_long_s :
    (LevelChoice.written "NoTiCe").severity? = some .info ∧
      outdated.withServer.environment.value .connection = "MySQL" ∧
      (∀ x, outdated.withServer.databaseSettings = .ok x → x.connection = "mysql") ∧
      IsForeign "MY\u017FQL" ∧ (LevelChoice.written "MY\u017FQL").severity? = none ∧
      ∃ x, (fresh.connectedTo "MY\u017FQL").databaseSettings = .ok x ∧ x.connection ≠ "mysql" := by
  have hserver : outdated.withServer.environment.value .connection = "MySQL" := by decide +kernel
  have hforeign : IsForeign "MY\u017FQL" := .inl ⟨'\u017F', by decide, by decide⟩
  obtain ⟨hlevel, -, -⟩ := recognised_iff_sameLetters "NoTiCe"
  obtain ⟨-, hmysql, -⟩ := recognised_iff_sameLetters "MySQL"
  obtain ⟨-, -, hlong⟩ := recognised_iff_sameLetters "MY\u017FQL"
  obtain ⟨hnone, hfile⟩ := hlong hforeign
  refine ⟨(hlevel _).mpr (.notice (by decide)), hserver, fun x hx => ?_, hforeign, hnone,
    hfile _ (by decide +kernel)⟩
  exact ((hmysql _ hserver).1 x hx).mpr (by decide)

end Machine

end PanelConfig
