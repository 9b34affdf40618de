import PanelConfig.Migration
import PanelConfig.Snapshot

/-! What each part of the configuration is read from. Two machines that agree on that agree on the
part, whatever else they differ in. -/

namespace PanelConfig

/-- The setting is one of the six of the database connection. -/
def Setting.isOfDatabase : Setting → Bool
  | .connection | .host | .port | .database | .username | .password => true
  | .debug | .logLevel | .binFolder | .databaseFolder | .logFolder => false

namespace DatabaseSettings

/-- The settings with another password. -/
def withPassword (s : DatabaseSettings) (password : String) : DatabaseSettings :=
  { s with password := password }

@[simp] theorem isMysql_withPassword (s : DatabaseSettings) (password : String) :
    (s.withPassword password).isMysql = s.isMysql := rfl

@[simp] theorem isIncomplete_withPassword (s : DatabaseSettings) (password : String) :
    (s.withPassword password).isIncomplete = s.isIncomplete := rfl

theorem withPort_withPassword (s : DatabaseSettings) (password : String) :
    (s.withPassword password).withPort = s.withPort.withPassword password := by
  rw [withPort, withPort, isMysql_withPassword]
  split
  · rfl
  · rfl

end DatabaseSettings

namespace Machine

variable {m₁ m₂ : Machine}

theorem name_congr (h : m₁.shippedName = m₂.shippedName) : m₁.name = m₂.name := by
  rw [name, name, h]

theorem version_congr (h : m₁.shippedVersion = m₂.shippedVersion) : m₁.version = m₂.version := by
  rw [version, version, h]

theorem isDebug_congr (h : m₁.environment.value .debug = m₂.environment.value .debug) :
    m₁.isDebug = m₂.isDebug := by
  rw [isDebug, isDebug, h]

theorem levelChoice_congr (hd : m₁.environment.value .debug = m₂.environment.value .debug)
    (hl : m₁.environment.value .logLevel = m₂.environment.value .logLevel) :
    m₁.levelChoice = m₂.levelChoice := by
  rw [levelChoice, levelChoice, isDebug_congr hd, hl]

theorem binFolder_congr (h : m₁.environment.value .binFolder = m₂.environment.value .binFolder) :
    m₁.binFolder = m₂.binFolder := by
  rw [binFolder, binFolder, h]

theorem isWindows_congr (h : m₁.platform = m₂.platform) (platform : Option String) :
    m₁.isWindows platform = m₂.isWindows platform := by
  rw [isWindows, isWindows, platformOr, platformOr, h]

theorem logFolder_congr (hl : m₁.environment.value .logFolder = m₂.environment.value .logFolder)
    (hp : m₁.platform = m₂.platform) (platform : Option String) :
    m₁.logFolder platform = m₂.logFolder platform := by
  rw [logFolder, logFolder, hl, isWindows_congr hp]

theorem baseFolder_congr (he : m₁.executable = m₂.executable)
    (hw : m₁.workingFolder = m₂.workingFolder) : m₁.baseFolder = m₂.baseFolder := by
  rw [baseFolder, baseFolder, he, hw]

theorem databaseFile_congr (h : m₁.name = m₂.name) (folder : String) :
    m₁.databaseFile folder = m₂.databaseFile folder := by
  rw [databaseFile, databaseFile, h]

theorem databaseFolder_congr
    (hf : m₁.environment.value .databaseFolder = m₂.environment.value .databaseFolder)
    (hp : m₁.platform = m₂.platform) (hl : m₁.legacyFolder = m₂.legacyFolder)
    (hb : m₁.baseFolder = m₂.baseFolder) (platform : Option String) :
    m₁.databaseFolder platform = m₂.databaseFolder platform := by
  rw [databaseFolder, databaseFolder, hf, isWindows_congr hp, hb, hl]

theorem connectionText_congr (hn : m₁.name = m₂.name) {platform : Option String}
    (hf : m₁.databaseFolder platform = m₂.databaseFolder platform) (s : DatabaseSettings) :
    m₁.connectionText s platform = m₂.connectionText s platform := by
  rw [connectionText, connectionText, hf, funext (databaseFile_congr hn)]

theorem oldDatabase_congr (hn : m₁.name = m₂.name) (hl : m₁.legacyFolder = m₂.legacyFolder) :
    m₁.oldDatabase = m₂.oldDatabase := by
  rw [oldDatabase, oldDatabase, hl, databaseFile_congr hn]

theorem newDatabase_congr (hn : m₁.name = m₂.name) (base : BaseFolder) :
    m₁.newDatabase base = m₂.newDatabase base := by
  rw [newDatabase, newDatabase, databaseFile_congr hn]

theorem moveDatabase_congr (hd : m₁.disk = m₂.disk) (plan : FaultPlan) (old new : String) :
    m₁.moveDatabase plan old new = m₂.moveDatabase plan old new := by
  rw [moveDatabase, moveDatabase, hd]

/-- The environments given to two migrations may differ, as long as the folder for databases that
is set in them is the same. -/
theorem migrateUnder_congr (hn : m₁.name = m₂.name) (hl : m₁.legacyFolder = m₂.legacyFolder)
    (hp : m₁.platform = m₂.platform) (hb : m₁.baseFolder = m₂.baseFolder)
    (hd : m₁.disk = m₂.disk) {environ₁ environ₂ : Option Environment}
    (hf : (environ₁.getD m₁.environment).value .databaseFolder =
      (environ₂.getD m₂.environment).value .databaseFolder)
    (plan : FaultPlan) (platform : Option String) :
    m₁.migrateUnder plan platform environ₁ = m₂.migrateUnder plan platform environ₂ := by
  simp only [migrateUnder, isWindows_congr hp, hf, hb, hd, oldDatabase_congr hn hl,
    newDatabase_congr hn, moveDatabase_congr hd]

/-! The settings of the database connection. All but the password is told. -/

theorem databaseSettings_congr (h : ∀ s : Setting, s.isOfDatabase = true →
    m₁.environment.value s = m₂.environment.value s) :
    m₁.databaseSettings = m₂.databaseSettings := by
  rw [databaseSettings, databaseSettings, givenDatabase, givenDatabase, h .connection rfl,
    h .host rfl, h .port rfl, h .database rfl, h .username rfl, h .password rfl]

/-- The settings as far as they are told: without the password. -/
def toldDatabase (m : Machine) : Except Failure DatabaseSettings :=
  m.databaseSettings.map (·.withPassword "")

theorem toldDatabase_eq (m : Machine) :
    m.toldDatabase =
      if (m.givenDatabase.withPassword "").isIncomplete then .error .incompleteDatabase
      else .ok (m.givenDatabase.withPassword "").withPort := by
  rw [toldDatabase, databaseSettings, DatabaseSettings.isIncomplete_withPassword,
    DatabaseSettings.withPort_withPassword]
  split
  · rfl
  · rfl

theorem toldDatabase_congr (h : ∀ s : Setting, s.isOfDatabase = true → s ≠ .password →
    m₁.environment.value s = m₂.environment.value s) : m₁.toldDatabase = m₂.toldDatabase := by
  have hgiven : m₁.givenDatabase.withPassword "" = m₂.givenDatabase.withPassword "" := by
    simp only [givenDatabase, DatabaseSettings.withPassword, h .connection rfl (by decide),
      h .host rfl (by decide), h .port rfl (by decide), h .database rfl (by decide),
      h .username rfl (by decide)]
  rw [toldDatabase_eq, toldDatabase_eq, hgiven]

/-- Where the same is told of the settings, they are refused alike, or differ in the password. -/
theorem databaseSettings_of_told (h : m₁.toldDatabase = m₂.toldDatabase) :
    (∃ e, m₁.databaseSettings = .error e ∧ m₂.databaseSettings = .error e) ∨
      ∃ s₁ s₂, m₁.databaseSettings = .ok s₁ ∧ m₂.databaseSettings = .ok s₂ ∧
        s₁.withPassword "" = s₂.withPassword "" := by
  rw [toldDatabase, toldDatabase] at h
  cases h₁ : m₁.databaseSettings with
  | error e₁ =>
    cases h₂ : m₂.databaseSettings with
    | error e₂ =>
      rw [h₁, h₂] at h
      exact .inl ⟨e₁, rfl, congrArg Except.error (Except.error.inj h).symm⟩
    | ok s₂ =>
      rw [h₁, h₂] at h
      cases h
  | ok s₁ =>
    cases h₂ : m₂.databaseSettings with
    | error e₂ =>
      rw [h₁, h₂] at h
      cases h
    | ok s₂ =>
      rw [h₁, h₂] at h
      exact .inr ⟨s₁, s₂, rfl, rfl, Except.ok.inj h⟩

theorem snapshot_congr {platform : Option String} (hn : m₁.name = m₂.name)
    (hv : m₁.version = m₂.version) (hs : m₁.toldDatabase = m₂.toldDatabase)
    (hc : m₁.levelChoice = m₂.levelChoice) (hd : m₁.isDebug = m₂.isDebug)
    (hb : m₁.binFolder = m₂.binFolder)
    (hf : m₁.databaseFolder platform = m₂.databaseFolder platform)
    (hl : m₁.logFolder platform = m₂.logFolder platform) :
    m₁.snapshot platform = m₂.snapshot platform := by
  rw [snapshot, snapshot, hn, hv, hc, hd, hb, hf, hl]
  rcases databaseSettings_of_told hs with ⟨e, h₁, h₂⟩ | ⟨s₁, s₂, h₁, h₂, htold⟩
  · rw [h₁, h₂]
  · have hreport : s₁.report = s₂.report := congrArg (·.report) htold
    rw [h₁, h₂]
    simp only [Except.bind, hreport]

/-- The folder for databases hangs on no base folder: the platform is not Windows, or the folder is
set. -/
def HasFixedFolder (m : Machine) (platform : Option String) : Prop :=
  m.isWindows platform = false ∨ m.environment.value .databaseFolder ≠ ""

namespace HasFixedFolder

variable {m : Machine} {platform : Option String}

theorem databaseFolder (h : m.HasFixedFolder platform) :
    m.databaseFolder platform =
      .ok (orElse (m.environment.value .databaseFolder) m.legacyFolder) := by
  rw [Machine.databaseFolder, orElse]
  by_cases hset : m.environment.value .databaseFolder = ""
  · have hplatform : m.isWindows platform = false := h.resolve_right (by simp [hset])
    rw [if_neg (by simp [hset]), hplatform, if_neg Bool.false_ne_true, if_pos hset]
  · rw [if_pos hset, if_neg hset]

/-- Where the folder for databases is fixed, nothing is migrated. -/
theorem migrate (h : m.HasFixedFolder platform) :
    m.migrate platform none =
      ⟨.ok (if m.isWindows platform then .skippedOverride else .skippedPlatform), [], m.disk⟩ := by
  rw [Machine.migrate, migrateUnder]
  cases hw : m.isWindows platform with
  | false => rfl
  | true =>
    have hset : m.environment.value .databaseFolder ≠ "" := h.resolve_left (by simp [hw])
    rw [Option.getD_none, if_neg (by simp), if_pos hset, if_pos rfl]

end HasFixedFolder

end Machine

end PanelConfig
