import PanelConfig.Proofs.Environment
import PanelConfig.Proofs.Restart
import PanelConfig.Proofs.SideBySide

/-! The level of the log changes nothing but what is logged. Two machines that differ in the
variables for the level and in the threshold alone start the service alike: they end alike, leave
the same disk, answer alike but for the level in the report itself, and log the same records, of
which each lets through those that are grave enough. -/

namespace PanelConfig

/-- The environments agree on all variables but the two for the level. -/
def Environment.SameButLevel (e₁ e₂ : Environment) : Prop :=
  ∀ name, name ≠ Setting.debug.variableName → name ≠ Setting.logLevel.variableName →
    e₁.find? name = e₂.find? name

/-- The machines agree on all but the variables for the level and the threshold. -/
structure Machine.SameButLevel (m₁ m₂ : Machine) : Prop where
  environment : m₁.environment.SameButLevel m₂.environment
  platform : m₁.platform = m₂.platform
  executable : m₁.executable = m₂.executable
  workingFolder : m₁.workingFolder = m₂.workingFolder
  shippedName : m₁.shippedName = m₂.shippedName
  shippedVersion : m₁.shippedVersion = m₂.shippedVersion
  legacyFolder : m₁.legacyFolder = m₂.legacyFolder
  disk : m₁.disk = m₂.disk

def Snapshot.withLevel (s : Snapshot) (level : String) (debug : Bool) : Snapshot :=
  { s with logLevel := level, debug := debug }

/-- The responses to a request are the same, unless they are reports on the configuration, which may
differ in the level and in whether debugging is on. -/
def Service.Request.AnsweredAlike (r : Request) (x₁ x₂ : Response) : Prop :=
  x₁ = x₂ ∨ r.AsksForReport ∧ ∃ (s : Snapshot) (level : String) (debug : Bool),
    x₁ = .json 200 s.value ∧ x₂ = .json 200 (s.withLevel level debug).value

namespace Machine.SameButLevel

variable {m₁ m₂ : Machine}

theorem value (h : m₁.SameButLevel m₂) {s : Setting} (hd : s ≠ .debug) (hl : s ≠ .logLevel) :
    m₁.environment.value s = m₂.environment.value s := by
  have hnames : s.variableName ≠ Setting.debug.variableName ∧
      s.variableName ≠ Setting.logLevel.variableName := by
    cases s with
    | debug => exact absurd rfl hd
    | logLevel => exact absurd rfl hl
    | _ => decide
  rw [Environment.value, Environment.value, h.environment _ hnames.1 hnames.2]

theorem installation (h : m₁.SameButLevel m₂) : m₁.SameInstallation m₂ := { h with }

theorem surroundings (h : m₁.SameButLevel m₂) : m₁.SameSurroundings m₂ := { h with }

/-- The panel takes all from both machines alike that it does not read from the level. -/
theorem same (h : m₁.SameButLevel m₂) {p : Part} (hd : p.takes .debug = false)
    (hl : p.takes .logLevel = false) : p.Same m₁ m₂ := by
  refine Part.same_of_settings h.installation (fun _ => h.surroundings) fun s hs => ?_
  apply h.value
  · rintro rfl
    simp [hd] at hs
  · rintro rfl
    simp [hl] at hs

theorem databaseSettings (h : m₁.SameButLevel m₂) : m₁.databaseSettings = m₂.databaseSettings :=
  h.same (p := .databaseSettings) rfl rfl

theorem databaseFolder (h : m₁.SameButLevel m₂) (platform : Option String) :
    m₁.databaseFolder platform = m₂.databaseFolder platform :=
  h.same (p := .databaseFolder platform) rfl rfl

theorem logFolder (h : m₁.SameButLevel m₂) (platform : Option String) :
    m₁.logFolder platform = m₂.logFolder platform :=
  h.same (p := .logFolder platform) rfl rfl

theorem binFolder (h : m₁.SameButLevel m₂) : m₁.binFolder = m₂.binFolder :=
  h.same (p := .binFolder) rfl rfl

theorem openingMigration (h : m₁.SameButLevel m₂) : m₁.openingMigration = m₂.openingMigration :=
  h.surroundings.openingMigration h.installation (h.value (by decide) (by decide))

theorem snapshot (h : m₁.SameButLevel m₂) (platform : Option String) :
    m₂.snapshot platform =
      (m₁.snapshot platform).map (·.withLevel m₂.levelChoice.text m₂.isDebug) := by
  rw [Machine.snapshot, Machine.snapshot, h.databaseSettings, h.databaseFolder, h.logFolder,
    h.binFolder, name_congr h.shippedName, version_congr h.shippedVersion]
  cases m₂.databaseSettings with
  | error e => rfl
  | ok settings =>
    cases m₂.databaseFolder platform with
    | error e => rfl
    | ok folder => rfl

theorem started (h : m₁.SameButLevel m₂) : m₁.started.SameButLevel m₂.started :=
  { h with disk := congrArg Migration.disk h.openingMigration }

theorem answer (h : m₁.SameButLevel m₂) (r : Service.Request) :
    r.AnsweredAlike (Service.answer m₁ r).1 (Service.answer m₂ r).1 ∧
      (Service.answer m₁ r).2 = (Service.answer m₂ r).2 := by
  by_cases hr : r.AsksForReport
  · have hsnapshot := h.snapshot none
    cases hs : m₁.snapshot none with
    | ok s =>
      rw [hs] at hsnapshot
      rw [Service.answer_of_snapshot hr hs, Service.answer_of_snapshot hr hsnapshot]
      exact ⟨.inr ⟨hr, s, _, _, rfl, rfl⟩, rfl⟩
    | error e =>
      rw [hs] at hsnapshot
      have hsame : Service.answer m₁ r = Service.answer m₂ r :=
        Service.answer_congr (name_congr h.shippedName) (version_congr h.shippedVersion)
          (hs.trans hsnapshot.symm) r
      rw [hsame]
      exact ⟨.inl rfl, rfl⟩
  · have hsame := (Service.answer_of_not (name_congr h.shippedName)
      (version_congr h.shippedVersion) hr).1
    rw [hsame]
    exact ⟨.inl rfl, rfl⟩

theorem records_serve (h : m₁.SameButLevel m₂) (requests : List Service.Request) :
    (m₁.serve requests).2 = (m₂.serve requests).2 := by
  have hrecords : ∀ r, (Service.answer m₁ r).2 = (Service.answer m₂ r).2 := fun r => (h.answer r).2
  simp only [serve, List.flatMap_map, hrecords]

theorem records_serveConfigured (h : m₁.SameButLevel m₂) (requests : List Service.Request) :
    (m₁.serveConfigured requests).2 = (m₂.serveConfigured requests).2 := by
  have hnote : m₁.databaseNote = m₂.databaseNote :=
    funext fun s => databaseNote_congr (name_congr h.shippedName) (h.databaseFolder none) rfl
  simp only [serveConfigured, requiredDatabase, databaseRecords, h.databaseSettings, h.binFolder,
    h.logFolder, hnote, name_congr h.shippedName]
  cases m₂.databaseSettings with
  | error e => rfl
  | ok s =>
    cases hnote : m₂.databaseNote s with
    | error e => simp only [hnote]
    | ok record => simp only [hnote, h.records_serve]

theorem laterRecords (h : m₁.SameButLevel m₂) (requests : List Service.Request) :
    m₁.laterRecords requests = m₂.laterRecords requests := by
  simp only [Machine.laterRecords, h.openingMigration, h.started.records_serveConfigured]

end Machine.SameButLevel

namespace Severity

variable {t t₁ t₂ : Severity} {records : List Record}

theorem letsThrough_error {r : Record} (h : r.severity = .error) (t : Severity) :
    t.letsThrough r = true := by
  rw [letsThrough, h]
  cases t <;> rfl

theorem visible_error {r : Record} (h : r.severity = .error) (t : Severity) :
    t.visible [r] = [r] := by
  rw [visible, List.filter_cons_of_pos (letsThrough_error h t), List.filter_nil]

end Severity

namespace Machine

variable {m : Machine}

/-- The record that tells why the process ends. -/
def exitRecord : Record :=
  ⟨.error, .settings, s!"Error getting database config: {Failure.incompleteDatabase.message}"⟩

theorem records_perform_request {r : Service.Request} {e : Failure} (hr : r.AsksForReport)
    (hs : m.snapshot none = .error e) (he : e ≠ .incompleteDatabase) :
    ((Operation.request r).perform m).records = [Service.brokenRecord r e] := by
  simp only [Operation.perform, Operation.emit, Service.answer_of_failure hr hs he]
  exact Severity.visible_error rfl m.threshold

/-- The machine with a throwaway executable, on which the query for the working folder breaks. -/
def adrift (m : Machine) : Machine :=
  { m with executable := some "/tmp/go-build/x-ui", workingFolder := .failed .broken "lost" }

end Machine

end PanelConfig
