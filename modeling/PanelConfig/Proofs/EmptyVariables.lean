import PanelConfig.Proofs.Environment
import PanelConfig.Proofs.Migration
import PanelConfig.Proofs.SideBySide

/-! An empty variable counts as one that is not set. Two machines whose environments differ in
nothing else give the same reports in every session: the same answers and failures, the same records
and the same disks. -/

namespace PanelConfig

/-- What two environments hold for a variable: the same, or an empty value in one of them and none
in the other. -/
inductive HeldAlike : Option String → Option String → Prop
  | same (v : Option String) : HeldAlike v v
  | emptyFirst : HeldAlike (some "") none
  | emptySecond : HeldAlike none (some "")

theorem HeldAlike.getD_eq {v w : Option String} (h : HeldAlike v w) : v.getD "" = w.getD "" := by
  cases h with
  | same => rfl
  | emptyFirst => rfl
  | emptySecond => rfl

/-- The environments differ at most in that variables are empty in one and not set in the other. -/
def Environment.SameButEmpty (e₁ e₂ : Environment) : Prop :=
  ∀ name, HeldAlike (e₁.find? name) (e₂.find? name)

namespace Environment.SameButEmpty

variable {e₁ e₂ : Environment}

theorem refl (e : Environment) : e.SameButEmpty e := fun _ => .same _

theorem value (h : e₁.SameButEmpty e₂) (s : Setting) : e₁.value s = e₂.value s :=
  (h s.variableName).getD_eq

theorem set (h : e₁.SameButEmpty e₂) (name v : String) :
    (e₁.set name v).SameButEmpty (e₂.set name v) := by
  intro k
  rw [find?_set, find?_set]
  split
  · exact .same _
  · exact h k

theorem unset (h : e₁.SameButEmpty e₂) (name : String) :
    (e₁.unset name).SameButEmpty (e₂.unset name) := by
  intro k
  rw [find?_unset, find?_unset]
  split
  · exact .same _
  · exact h k

/-- A variable may be made empty in one of the environments and taken out of the other. -/
theorem emptied (h : e₁.SameButEmpty e₂) (name : String) :
    (e₁.set name "").SameButEmpty (e₂.unset name) := by
  intro k
  rw [find?_set, find?_unset]
  split
  · exact .emptyFirst
  · exact h k

theorem emptiedAll (h : e₁.SameButEmpty e₂) (settings : List Setting) :
    (settings.foldl (fun e s => e.set s.variableName "") e₁).SameButEmpty
      (settings.foldl (fun e s => e.unset s.variableName) e₂) :=
  List.foldl_rel h fun s _ _ _ he => he.emptied s.variableName

end Environment.SameButEmpty

theorem Environment.lasts_sameButEmpty : Environment.Lasts Environment.SameButEmpty where
  set h := h.set
  unset h := h.unset

/-- The machines differ at most in variables that are empty on one and not set on the other. -/
abbrev Machine.SameButEmpty (m₁ m₂ : Machine) : Prop := m₁.SameBut Environment.SameButEmpty m₂

/-- The panel takes the same from both machines. -/
theorem Machine.SameButEmpty.same {m₁ m₂ : Machine} (h : m₁.SameButEmpty m₂) (p : Part) :
    p.Same m₁ m₂ :=
  Part.same_of_settings h.installation (fun _ => h.surroundings) fun s _ => h.environment.value s

/-- The operations are the same, but for variables that are empty in the environment given to one
migration and not set in that given to the other. -/
inductive Operation.SameButEmpty : Operation → Operation → Prop
  | same (op : Operation) : SameButEmpty op op
  | migrate (platform : Option String) {e₁ e₂ : Environment} :
      e₁.SameButEmpty e₂ → SameButEmpty (.migrate platform (some e₁)) (.migrate platform (some e₂))

theorem Operation.perform_sameButEmpty {m₁ m₂ : Machine} {op₁ op₂ : Operation}
    (h : m₁.SameButEmpty m₂) (hop : op₁.SameButEmpty op₂) :
    (op₁.perform m₁).Alike Machine.SameButEmpty (op₂.perform m₂) := by
  cases hop with
  | same => exact h.perform_alike Environment.lasts_sameButEmpty fun p _ => h.same p
  | @migrate platform e₁ e₂ he =>
    have hmigrate : m₁.migrate platform (some e₁) = m₂.migrate platform (some e₂) :=
      h.surroundings.migrate h.installation platform (he.value .databaseFolder)
    refine ⟨?_, ?_, ?_⟩
    · simp only [perform, emit, hmigrate]
    · simp only [perform, emit, hmigrate, h.threshold]
    · simp only [perform, emit, hmigrate]
      exact { h with disk := rfl }

/-- An empty variable counts as one that is not set. Two machines that differ in nothing but
variables that are empty on one and not set on the other, any of them and either way around, give
the same reports in every session of operations, in which environments that are given to migrations
may differ in the same way: the same answers and failures, the same records and the same disks. The
variables that are not empty are the same on both after every operation. -/
theorem Machine.empty_counts_as_unset {m₁ m₂ : Machine} (h : m₁.SameButEmpty m₂)
    {ops₁ ops₂ : List Operation} (hops : List.Forall₂ Operation.SameButEmpty ops₁ ops₂) :
    List.Forall₂ (Report.Alike SameButEmpty) (m₁.session ops₁) (m₂.session ops₂) :=
  session_alike Operation.perform_sameButEmpty h hops

namespace Machine

/-- The machine with all settings set to empty values. -/
def emptied (m : Machine) : Machine :=
  { m with environment := Setting.all.foldl (fun e s => e.set s.variableName "") m.environment }

/-- The machine with no setting set. -/
def cleared (m : Machine) : Machine :=
  { m with environment := Setting.all.foldl (fun e s => e.unset s.variableName) m.environment }

theorem sameButEmpty_emptied (m : Machine) : m.emptied.SameButEmpty m.cleared where
  environment := (Environment.SameButEmpty.refl m.environment).emptiedAll Setting.all
  platform := rfl
  executable := rfl
  workingFolder := rfl
  shippedName := rfl
  shippedVersion := rfl
  legacyFolder := rfl
  disk := rfl
  threshold := rfl

/-- A session that reads every setting, one of them in a given environment. -/
def settingsSession (e : Environment) : List Operation :=
  [.isDebug, .getLogLevel, .getBinFolder, .getLogFolder none, .getDatabase, .getDatabasePath none,
    .migrate none (some e), .describe none, .commandLine ["run", "--log-level", ""],
    .runService [⟨"GET", "/config"⟩], .commandLine ["show"]]

theorem empty_counts_as_unset_emptied :
    outdated.emptied.environment.find? "XUI_DB_FOLDER" = some "" ∧
      outdated.cleared.environment.find? "XUI_DB_FOLDER" = none ∧
      outdated.emptied.SameButEmpty outdated.cleared ∧
      List.Forall₂ Operation.SameButEmpty (settingsSession outdated.emptied.environment)
        (settingsSession outdated.cleared.environment) ∧
      List.Forall₂ (Report.Alike SameButEmpty)
        (outdated.emptied.session (settingsSession outdated.emptied.environment))
        (outdated.cleared.session (settingsSession outdated.cleared.environment)) := by
  have h := sameButEmpty_emptied outdated
  have hops : List.Forall₂ Operation.SameButEmpty (settingsSession outdated.emptied.environment)
      (settingsSession outdated.cleared.environment) := by
    refine .cons (.same _) (.cons (.same _) (.cons (.same _) (.cons (.same _) (.cons (.same _)
      (.cons (.same _) (.cons (.migrate none h.environment) ?_))))))
    exact List.forall₂_same.mpr fun op _ => .same op
  exact ⟨by decide, by decide, h, hops, empty_counts_as_unset h hops⟩

end Machine

end PanelConfig
