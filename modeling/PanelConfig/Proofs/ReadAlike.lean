import PanelConfig.Proofs.Environment
import PanelConfig.Proofs.SideBySide

/-! Machines that read alike: of the settings in their environments the panel takes the same on
both, though the variables may differ. Main statement: sessions in which no variable of the database
connection is set or unset from outside give the same reports on both. -/

namespace PanelConfig

/-- A setting of the database connection is taken from the variable. -/
def isDatabaseVariable (name : String) : Bool :=
  Setting.all.any fun s => s.isOfDatabase && s.variableName = name

theorem isDatabaseVariable_variableName (s : Setting) :
    isDatabaseVariable s.variableName = s.isOfDatabase := by
  cases s <;> decide

theorem Setting.variableName_ne {s : Setting} (hs : s.isOfDatabase = true) {name : String}
    (h : isDatabaseVariable name = false) : s.variableName ≠ name := by
  rintro rfl
  rw [isDatabaseVariable_variableName, hs] at h
  cases h

theorem not_isDatabaseVariable_of_run :
    ∀ s ∈ CommandLine.runSettings, isDatabaseVariable s.variableName = false := by
  decide

/-- The machines agree on all that the panel reads: the settings of the database connection as they
are taken, the other settings as they stand in the environment, and all outside of it. -/
structure Machine.ReadsAlike (m₁ m₂ : Machine) : Prop where
  databaseSettings : m₁.databaseSettings = m₂.databaseSettings
  value : ∀ s : Setting, s.isOfDatabase = false →
    m₁.environment.value s = m₂.environment.value s
  platform : m₁.platform = m₂.platform
  executable : m₁.executable = m₂.executable
  workingFolder : m₁.workingFolder = m₂.workingFolder
  shippedName : m₁.shippedName = m₂.shippedName
  shippedVersion : m₁.shippedVersion = m₂.shippedVersion
  legacyFolder : m₁.legacyFolder = m₂.legacyFolder
  disk : m₁.disk = m₂.disk
  threshold : m₁.threshold = m₂.threshold

namespace Machine.ReadsAlike

variable {m₁ m₂ : Machine}

theorem installation (h : m₁.ReadsAlike m₂) : m₁.SameInstallation m₂ := { h with }

theorem surroundings (h : m₁.ReadsAlike m₂) : m₁.SameSurroundings m₂ := { h with }

theorem same (h : m₁.ReadsAlike m₂) (p : Part) : p.Same m₁ m₂ := by
  cases p with
  | databaseSettings => exact h.databaseSettings
  | toldDatabase =>
    show m₁.toldDatabase = m₂.toldDatabase
    rw [toldDatabase, toldDatabase, h.databaseSettings]
  | _ =>
    -- the other parts are read from no setting of the database connection
    apply Part.same_of_settings h.installation fun _ => h.surroundings
    intro s hs
    cases s <;> first | exact h.value _ rfl | cases hs

/-! What is done to both machines leaves them reading alike. -/

/-- Both environments may be changed in the same way, as long as the settings of the database
connection are left as they are. -/
theorem withEnvironment (h : m₁.ReadsAlike m₂) {f : Environment → Environment}
    (hkept : ∀ e (s : Setting), s.isOfDatabase = true → (f e).value s = e.value s)
    (hcongr : ∀ {e₁ e₂ : Environment} {s : Setting}, e₁.value s = e₂.value s →
      (f e₁).value s = (f e₂).value s) :
    { m₁ with environment := f m₁.environment }.ReadsAlike
      { m₂ with environment := f m₂.environment } := by
  have hsettings : { m₁ with environment := f m₁.environment }.databaseSettings =
      { m₂ with environment := f m₂.environment }.databaseSettings := by
    calc { m₁ with environment := f m₁.environment }.databaseSettings
      _ = m₁.databaseSettings := databaseSettings_congr (hkept m₁.environment)
      _ = m₂.databaseSettings := h.databaseSettings
      _ = { m₂ with environment := f m₂.environment }.databaseSettings :=
        (databaseSettings_congr (hkept m₂.environment)).symm
  exact { h with databaseSettings := hsettings, value := fun s hs => hcongr (h.value s hs) }

theorem set (h : m₁.ReadsAlike m₂) {name : String} (hn : isDatabaseVariable name = false)
    (v : String) :
    { m₁ with environment := m₁.environment.set name v }.ReadsAlike
      { m₂ with environment := m₂.environment.set name v } := by
  apply h.withEnvironment (f := (·.set name v))
  · intro e s hs
    rw [Environment.value_set, if_neg (Setting.variableName_ne hs hn)]
  · intro e₁ e₂ s he
    rw [Environment.value_set, Environment.value_set, he]

theorem unset (h : m₁.ReadsAlike m₂) {name : String} (hn : isDatabaseVariable name = false) :
    { m₁ with environment := m₁.environment.unset name }.ReadsAlike
      { m₂ with environment := m₂.environment.unset name } := by
  apply h.withEnvironment (f := (·.unset name))
  · intro e s hs
    rw [Environment.value_unset, if_neg (Setting.variableName_ne hs hn)]
  · intro e₁ e₂ s he
    rw [Environment.value_unset, Environment.value_unset, he]

theorem changed (h : m₁.ReadsAlike m₂) {c : MachineChange}
    (hc : ∀ x ∈ c.environment, isDatabaseVariable x.1 = false) :
    (m₁.changed c).ReadsAlike (m₂.changed c) := by
  have henvironments := h.withEnvironment
    (f := fun e => c.environment.foldl (fun e x => e.set x.1 x.2) e)
    (fun e s hs => Environment.value_foldl_set_of_ne
      (fun x hx => Setting.variableName_ne hs (hc x hx)) e)
    fun he => Environment.value_foldl_set_congr he c.environment
  exact { h.installation.changed c, h.surroundings.changed c with
    databaseSettings := henvironments.databaseSettings
    value := henvironments.value
    threshold := h.threshold }

end Machine.ReadsAlike

theorem Machine.lasts_readsAlike : Machine.Lasts Machine.ReadsAlike where
  threshold h := h.threshold
  withDisks h hd := { h with disk := hd h.disk }
  withLevel h _ := { h with threshold := rfl }
  set h hs v := h.set (not_isDatabaseVariable_of_run _ hs) v

/-- The operation sets or unsets a variable of the database connection from outside. -/
def Operation.setsDatabase : Operation → Bool
  | .change c => c.environment.any fun x => isDatabaseVariable x.1
  | .unset variableName => isDatabaseVariable variableName
  | _ => false

theorem Operation.perform_readsAlike {m₁ m₂ : Machine} {op : Operation} (h : m₁.ReadsAlike m₂)
    (hop : op.setsDatabase = false) : (op.perform m₁).Alike Machine.ReadsAlike (op.perform m₂) := by
  apply perform_alike Machine.lasts_readsAlike h fun p _ => h.same p
  intro hout
  cases op with
  | change c =>
    have hc : ∀ x ∈ c.environment, isDatabaseVariable x.1 = false := by
      simpa [setsDatabase] using hop
    exact h.changed hc
  | unset variableName => exact h.unset hop
  | _ => cases hout

/-- Machines that read alike report alike, in every session that leaves the variables of the
database connection to them. -/
theorem Machine.ReadsAlike.session {m₁ m₂ : Machine} (h : m₁.ReadsAlike m₂) {ops : List Operation}
    (hops : ∀ op ∈ ops, op.setsDatabase = false) :
    List.Forall₂ (Report.Alike ReadsAlike) (m₁.session ops) (m₂.session ops) :=
  session_alike_self Operation.perform_readsAlike h hops

end PanelConfig
