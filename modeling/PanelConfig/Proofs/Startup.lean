import PanelConfig.Proofs.Footprint
import PanelConfig.Proofs.Json.Reading
import PanelConfig.Proofs.Migration
import PanelConfig.Startup

/-! The life of the service, case by case. The migration at its start is the one that would be made
on its own; after it the folder of the database is known, so nothing but the settings of the
database can still end the start. -/

namespace PanelConfig.Machine

def openingMigration (m : Machine) : Migration := m.migrate (some m.platform) none

/-- The machine after the start of the service. -/
def started (m : Machine) : Machine :=
  { m.withLevel m.levelChoice with disk := m.openingMigration.disk }

/-- What the service logs before the migration. -/
def openingRecords (m : Machine) : List Record :=
  m.levelChoice.records ++ [note s!"Starting {m.name} {m.version}..."]

def outcomeRecord (o : MigrationOutcome) : Record :=
  ⟨.debug, .service, s!"Legacy database migration: {o.text}"⟩

def folderRecords (m : Machine) : List Record :=
  [note s!"Binary folder: {m.binFolder}", note s!"Log folder: {m.logFolder none}"]

def closingRecord (m : Machine) : Record := note s!"Shutting down {m.name}..."

variable {m : Machine}

theorem migrate_withLevel (m : Machine) (c : LevelChoice) :
    (m.withLevel c).migrate (some m.platform) none = m.openingMigration := by
  rw [openingMigration, migrate, migrate]
  apply migrateUnder_congr
  · rfl
  · rfl
  · rfl
  · exact baseFolder_congr rfl rfl
  · rfl
  · rfl

theorem runService_of_error {e : Failure} (h : m.openingMigration.answer = .error e)
    (requests : List Service.Request) :
    m.runService requests =
      ⟨.error e, m.openingRecords ++ m.openingMigration.records, m.started⟩ := by
  have hm := migrate_withLevel m m.levelChoice
  simp only [runService, openingRecords, started]
  simp only [show (m.withLevel m.levelChoice).platform = m.platform from rfl, hm, h]

theorem runService_of_ok {o : MigrationOutcome} (h : m.openingMigration.answer = .ok o)
    (requests : List Service.Request) :
    m.runService requests =
      ⟨(m.started.serveConfigured requests).1,
        m.openingRecords ++ m.openingMigration.records
          ++ outcomeRecord o :: (m.started.serveConfigured requests).2, m.started⟩ := by
  have hm := migrate_withLevel m m.levelChoice
  simp only [runService, openingRecords, started, outcomeRecord]
  simp only [show (m.withLevel m.levelChoice).platform = m.platform from rfl, hm, h]

theorem machine_runService (m : Machine) (requests : List Service.Request) :
    (m.runService requests).machine = m.started := by
  cases h : m.openingMigration.answer with
  | error e => rw [runService_of_error h]
  | ok o => rw [runService_of_ok h]

theorem isWindows_platform (m : Machine) : m.isWindows (some m.platform) = m.isWindows none := by
  rw [isWindows, isWindows, platformOr, platformOr, Option.getD_some, Option.getD_none, orElse,
    orElse, if_pos rfl]
  split
  · rfl
  · rfl

theorem HasFixedFolder.openingMigration (h : m.HasFixedFolder none) :
    m.openingMigration =
      ⟨.ok (if m.isWindows none then .skippedOverride else .skippedPlatform), [], m.disk⟩ := by
  have hf : m.HasFixedFolder (some m.platform) := by
    rwa [HasFixedFolder, isWindows_platform]
  rw [Machine.openingMigration, hf.migrate, isWindows_platform]

theorem HasFixedFolder.started {platform : Option String} (h : m.HasFixedFolder platform) :
    m.started.HasFixedFolder platform := h

theorem openingMigration_of_folder {e : Failure} (h : m.databaseFolder none = .error e) :
    m.openingMigration.answer = .error e := by
  rw [databaseFolder] at h
  split at h
  · cases h
  next hf =>
  split at h
  · next hw =>
    cases hb : m.baseFolder with
    | ok base => rw [hb] at h; cases h
    | error failure =>
      rw [hb] at h
      cases h
      rw [openingMigration, migrate, migrateUnder, isWindows_platform, hw]
      simp only [Option.getD_none, hf, hb]
      rfl
  · cases h

theorem exists_databaseFolder {o : MigrationOutcome} (h : m.openingMigration.answer = .ok o) :
    ∃ folder, m.databaseFolder none = .ok folder := by
  cases hf : m.databaseFolder none with
  | ok folder => exact ⟨folder, rfl⟩
  | error e =>
    rw [openingMigration_of_folder hf] at h
    cases h

/-- The settings of the database can fail in one way only. -/
theorem databaseSettings_error {e : Failure} (h : m.databaseSettings = .error e) :
    e = .incompleteDatabase := by
  rw [databaseSettings] at h
  split at h
  · cases h
    rfl
  · cases h

theorem serveConfigured_of_error {e : Failure} (h : m.databaseSettings = .error e)
    (requests : List Service.Request) :
    m.serveConfigured requests = (.error (.exit 1), m.folderRecords ++ m.databaseRecords) := by
  simp only [serveConfigured, requiredDatabase, h, folderRecords]

/-- The record of the database in a folder, as the start logs it. -/
def databaseRecord (m : Machine) (s : DatabaseSettings) (folder : String) : Record :=
  if s.isMysql then note s!"Database: mysql at {s.host}:{s.port}"
  else note s!"Database: {m.databaseFile folder}"

theorem databaseNote_eq {folder : String} (h : m.databaseFolder none = .ok folder)
    (s : DatabaseSettings) : m.databaseNote s = .ok (m.databaseRecord s folder) := by
  rw [databaseNote, databaseRecord, connectionText, h]
  split
  · rfl
  · rfl

theorem serveConfigured_of_ok {s : DatabaseSettings} {folder : String}
    (h : m.databaseSettings = .ok s) (hf : m.databaseFolder none = .ok folder)
    (requests : List Service.Request) :
    m.serveConfigured requests = (.ok (m.serve requests).1,
      m.folderRecords ++ m.databaseRecord s folder :: (m.serve requests).2
        ++ [m.closingRecord]) := by
  simp only [serveConfigured, requiredDatabase, h, databaseNote_eq hf, folderRecords,
    closingRecord]

/-- What the service logs after the migration: nothing, if the migration has failed. -/
def laterRecords (m : Machine) (requests : List Service.Request) : List Record :=
  match m.openingMigration.answer with
  | .error _ => []
  | .ok o => outcomeRecord o :: (m.started.serveConfigured requests).2

theorem records_runService (m : Machine) (requests : List Service.Request) :
    (m.runService requests).records =
      m.openingRecords ++ m.openingMigration.records ++ m.laterRecords requests := by
  cases h : m.openingMigration.answer with
  | error e => simp only [runService_of_error h, laterRecords, h, List.append_nil]
  | ok o => simp only [runService_of_ok h, laterRecords, h]

theorem mem_serve {r : Record} {requests : List Service.Request}
    (h : r ∈ (m.serve requests).2) : r.severity = .error ∧ r.origin = .service := by
  obtain ⟨answer, ha, hr⟩ := List.mem_flatMap.mp h
  obtain ⟨q, -, rfl⟩ := List.mem_map.mp ha
  simp only [Service.answer] at hr
  split at hr
  · split at hr
    · next route _ _ =>
      cases route with
      | health | version => cases hr
      | config =>
        simp only [Service.answerRoute] at hr
        split at hr
        · cases hr
        · cases hr
        · cases List.mem_singleton.mp hr
          exact ⟨rfl, rfl⟩
    · cases hr
  · cases hr

theorem mem_openingRecords {r : Record} (h : r ∈ m.openingRecords) :
    r.severity = .warning ∧ r.origin = .levels ∨ r = note s!"Starting {m.name} {m.version}..." := by
  rcases List.mem_append.mp h with h | h
  · rw [LevelChoice.records] at h
    split at h
    · cases h
    · cases List.mem_singleton.mp h
      exact .inl ⟨rfl, rfl⟩
  · exact .inr (List.mem_singleton.mp h)

theorem mem_folderRecords {r : Record} : r ∈ m.folderRecords ↔
    r = note s!"Binary folder: {m.binFolder}" ∨ r = note s!"Log folder: {m.logFolder none}" := by
  simp [folderRecords]

/-- Notes whose texts start with different letters are different. -/
theorem note_ne {a b : String} (h : a.toList.head? ≠ b.toList.head?) : note a ≠ note b :=
  fun hn => h (congrArg (fun r => r.message.toList.head?) hn)

theorem mem_databaseRecords {r : Record} (h : r ∈ m.databaseRecords) :
    r.severity = .error ∧ r.origin = .settings := by
  rw [databaseRecords] at h
  split at h
  · cases h
  · cases List.mem_singleton.mp h
    exact ⟨rfl, rfl⟩

/-! The start changes nothing of what the configuration is read from. -/

@[simp] theorem started_databaseSettings (m : Machine) :
    m.started.databaseSettings = m.databaseSettings := databaseSettings_congr fun _ _ => rfl

@[simp] theorem started_toldDatabase (m : Machine) : m.started.toldDatabase = m.toldDatabase :=
  toldDatabase_congr fun _ _ _ => rfl

@[simp] theorem started_databaseFolder (m : Machine) (platform : Option String) :
    m.started.databaseFolder platform = m.databaseFolder platform := by
  apply databaseFolder_congr
  · rfl
  · rfl
  · rfl
  · exact baseFolder_congr rfl rfl

@[simp] theorem started_snapshot (m : Machine) (platform : Option String) :
    m.started.snapshot platform = m.snapshot platform := by
  apply snapshot_congr
  · rfl
  · rfl
  · exact started_toldDatabase m
  · rfl
  · rfl
  · rfl
  · exact started_databaseFolder m platform
  · exact logFolder_congr rfl rfl platform

theorem laterRecords_eq {o : MigrationOutcome} {folder : String}
    (h : m.openingMigration.answer = .ok o) (hf : m.databaseFolder none = .ok folder)
    (requests : List Service.Request) :
    m.laterRecords requests = outcomeRecord o :: m.started.folderRecords
      ++ match m.databaseSettings with
        | .error _ => m.started.databaseRecords
        | .ok s => m.started.databaseRecord s folder :: (m.started.serve requests).2
            ++ [m.started.closingRecord] := by
  rw [laterRecords, h]
  cases hs : m.databaseSettings with
  | error e =>
    rw [serveConfigured_of_error (by rw [started_databaseSettings, hs])]
    rfl
  | ok s =>
    rw [serveConfigured_of_ok (by rw [started_databaseSettings, hs])
      (by rw [started_databaseFolder, hf])]
    simp

/-- The records that the service logs after the migration. -/
inductive LaterRecord (m : Machine) : Record → Prop
  | outcome (o : MigrationOutcome) : LaterRecord m (outcomeRecord o)
  | folder {r : Record} : r ∈ m.folderRecords → LaterRecord m r
  | error {r : Record} : r.severity = .error → LaterRecord m r
  | database {s : DatabaseSettings} {folder : String} : m.databaseSettings = .ok s →
      m.databaseFolder none = .ok folder → LaterRecord m (m.databaseRecord s folder)
  | closing : LaterRecord m m.closingRecord

theorem laterRecord_of_mem {r : Record} {requests : List Service.Request}
    (h : r ∈ m.laterRecords requests) : m.LaterRecord r := by
  cases hm : m.openingMigration.answer with
  | error e =>
    rw [laterRecords, hm] at h
    cases h
  | ok o =>
    obtain ⟨folder, hf⟩ := exists_databaseFolder hm
    rw [laterRecords_eq hm hf, List.mem_append, List.mem_cons] at h
    rcases h with (rfl | h) | h
    · exact .outcome o
    · exact .folder h
    · cases hs : m.databaseSettings with
      | error e =>
        rw [hs] at h
        exact .error (mem_databaseRecords h).1
      | ok s =>
        rw [hs, List.mem_append, List.mem_cons] at h
        rcases h with (rfl | h) | h
        · exact .database hs hf
        · exact .error (mem_serve h).1
        · rw [List.mem_singleton.mp h]
          exact .closing

theorem severity_of_mem_laterRecords {r : Record} {requests : List Service.Request}
    (h : r ∈ m.laterRecords requests) (ho : r.origin = .settings) : r.severity = .error := by
  cases laterRecord_of_mem h with
  | outcome | closing => cases ho
  | folder h => rcases mem_folderRecords.mp h with rfl | rfl <;> cases ho
  | error h => exact h
  | database =>
    rw [databaseRecord] at ho
    split at ho <;> cases ho

/-- The record of a database file tells its path. -/
theorem eq_of_mem_laterRecords {path : String} {requests : List Service.Request}
    (h : note s!"Database: {path}" ∈ m.laterRecords requests) :
    ∃ s folder, m.databaseSettings = .ok s ∧ m.databaseFolder none = .ok folder ∧
      note s!"Database: {path}" = m.databaseRecord s folder := by
  have hr := laterRecord_of_mem h
  generalize he : note s!"Database: {path}" = r at hr
  -- of the notes, the others start with another letter
  cases hr with
  | outcome => cases congrArg Record.severity he
  | folder h =>
    subst he
    rcases mem_folderRecords.mp h with h | h
    · exact absurd h (note_ne (by simp [toString]))
    · exact absurd h (note_ne (by simp [toString]))
  | error h =>
    subst he
    cases h
  | database hs hf => exact ⟨_, _, hs, hf, rfl⟩
  | closing => exact absurd he (note_ne (by simp [toString]))

/-- The executable is in a throwaway folder, and the query for the working folder breaks. -/
inductive LosesBase (m : Machine) : Failure → Prop
  | lose {path message : String} {fault : FolderFault} : m.executable.getD "" = path → path ≠ "" →
      BaseFolder.isEphemeral (BaseFolder.ofExecutable path) = true →
      m.workingFolder = .failed fault message → fault.isSystem = false →
      LosesBase m (.workingFolder fault message)

theorem baseFolder_eq_error_iff {e : Failure} : m.baseFolder = .error e ↔ m.LosesBase e := by
  constructor
  · intro h
    rw [baseFolder] at h
    split at h
    · cases h
    next hpath =>
    split at h
    · next hephemeral =>
      cases hw : m.workingFolder with
      | found path => rw [hw] at h; cases h
      | failed fault message =>
        rw [hw, FolderQuery.answer] at h
        simp only at h
        split at h
        · cases h
        · next hsystem =>
          obtain rfl := Except.error.inj h
          exact .lose rfl hpath hephemeral hw (by simpa [Failure.isSystem] using hsystem)
    · cases h
  · rintro ⟨rfl, hpath, hephemeral, hw, hsystem⟩
    simp [baseFolder, hpath, hephemeral, hw, FolderQuery.answer, Failure.isSystem, hsystem]

theorem workingFolder_of_baseFolder {e : Failure} (h : m.baseFolder = .error e) :
    ∃ fault message, m.workingFolder = .failed fault message ∧
      e = .workingFolder fault message := by
  obtain ⟨-, -, -, hw, -⟩ := baseFolder_eq_error_iff.mp h
  exact ⟨_, _, hw, rfl⟩

theorem workingFolder_of_databaseFolder {platform : Option String} {e : Failure}
    (h : m.databaseFolder platform = .error e) :
    ∃ fault message, m.workingFolder = .failed fault message ∧
      e = .workingFolder fault message := by
  apply workingFolder_of_baseFolder
  rw [databaseFolder] at h
  split at h
  · cases h
  split at h
  · cases hb : m.baseFolder with
    | error failure => rw [hb] at h; exact congrArg Except.error (Except.error.inj h)
    | ok base => rw [hb] at h; cases h
  · cases h

theorem databaseSettings_of_snapshot {platform : Option String}
    (h : m.snapshot platform = .error .incompleteDatabase) :
    m.databaseSettings = .error .incompleteDatabase := by
  rw [snapshot] at h
  cases hs : m.databaseSettings with
  | error e => rw [databaseSettings_error hs]
  | ok s =>
    cases hf : m.databaseFolder platform with
    | ok folder => rw [hs, hf] at h; cases h
    | error e =>
      obtain ⟨fault, message, -, rfl⟩ := workingFolder_of_databaseFolder hf
      rw [hs, hf] at h
      cases h

theorem snapshot_items {platform : Option String} {s : Snapshot}
    (h : m.snapshot platform = .ok s) :
    ∃ settings, m.databaseSettings = .ok settings ∧
      m.databaseFolder platform = .ok s.databaseFolder ∧ s.database = settings.report ∧
      s.name = m.name ∧ s.version = m.version ∧ s.logLevel = m.levelChoice.text ∧
      s.debug = m.isDebug ∧ s.binFolder = m.binFolder ∧ s.logFolder = m.logFolder platform := by
  rw [snapshot] at h
  cases hs : m.databaseSettings with
  | error e =>
    rw [hs] at h
    cases h
  | ok settings =>
    cases hf : m.databaseFolder platform with
    | error e =>
      rw [hs, hf] at h
      cases h
    | ok folder =>
      rw [hs, hf] at h
      cases h
      exact ⟨settings, rfl, rfl, rfl, rfl, rfl, rfl, rfl, rfl, rfl⟩

theorem exists_snapshot {s : DatabaseSettings} {platform : Option String} {folder : String}
    (h : m.databaseSettings = .ok s) (hf : m.databaseFolder platform = .ok folder) :
    ∃ snapshot, m.snapshot platform = .ok snapshot := by
  rw [snapshot, h, hf]
  exact ⟨_, rfl⟩

end PanelConfig.Machine

namespace PanelConfig

/-- The request asks for the report on the configuration. -/
def Service.Request.AsksForReport (r : Service.Request) : Prop :=
  r.method.toUpper = "GET" ∧
    Service.Route.ofPath? (Service.Target.ofText r.target).path = some .config

theorem Service.answer_of_asksForReport {m : Machine} {r : Service.Request} {s : Snapshot}
    (h : r.AsksForReport) (hs : m.snapshot none = .ok s) :
    (Service.answer m r).1 = .json 200 s.value := by
  simp [Service.answer, h.2, h.1, Service.answerRoute, hs]

theorem Service.read_json (status : Nat) (v : Value) :
    Json.read (Response.json status v).body = some v := by
  have hblanks : ∀ c ∈ "".toList, Json.isSpace c = true := by simp
  have hread := Json.read_text Json.faithful_compact v hblanks
  rwa [String.append_empty] at hread

namespace Machine

variable {m : Machine}

theorem answer_runService_of_ok {o : MigrationOutcome} (h : m.openingMigration.answer = .ok o)
    (requests : List Service.Request) :
    (m.runService requests).answer = match m.databaseSettings with
      | .error _ => .error (.exit 1)
      | .ok _ => .ok (requests.map fun r => (Service.answer m.started r).1) := by
  rw [runService_of_ok h]
  cases hs : m.databaseSettings with
  | error e => rw [serveConfigured_of_error (by rw [started_databaseSettings, hs])]
  | ok s =>
    obtain ⟨folder, hf⟩ := exists_databaseFolder h
    rw [serveConfigured_of_ok (by rw [started_databaseSettings, hs])
      (by rw [started_databaseFolder, hf]), serve, List.map_map]
    rfl

/-- A start that fails has not looked at the requests. -/
theorem runService_of_failure {e : Failure} {requests : List Service.Request}
    (h : (m.runService requests).answer = .error e) : m.runService requests = m.runService [] := by
  cases hm : m.openingMigration.answer with
  | error e => rw [runService_of_error hm, runService_of_error hm]
  | ok o =>
    cases hs : m.databaseSettings with
    | error e =>
      have hs' : m.started.databaseSettings = .error e := by rw [started_databaseSettings, hs]
      rw [runService_of_ok hm, runService_of_ok hm, serveConfigured_of_error hs',
        serveConfigured_of_error hs']
    | ok s =>
      rw [answer_runService_of_ok hm, hs] at h
      cases h

theorem responses_of_runService {requests : List Service.Request}
    {responses : List Service.Response} (h : (m.runService requests).answer = .ok responses) :
    ∃ s folder, m.databaseSettings = .ok s ∧ m.databaseFolder none = .ok folder ∧
      responses = requests.map fun r => (Service.answer m.started r).1 := by
  cases hm : m.openingMigration.answer with
  | error e =>
    rw [runService_of_error hm] at h
    cases h
  | ok o =>
    obtain ⟨folder, hf⟩ := exists_databaseFolder hm
    rw [answer_runService_of_ok hm] at h
    cases hs : m.databaseSettings with
    | error e =>
      rw [hs] at h
      cases h
    | ok s =>
      rw [hs] at h
      exact ⟨s, folder, rfl, hf, (Except.ok.inj h).symm⟩

/-- The start fails for two reasons only: its migration fails, or the settings of the database are
incomplete. In either case the disk is the one that the migration leaves, and no request is
answered. Once it has not failed, every request for the report is answered with the report, which
can be read back from the body. -/
theorem start_fails_iff (m : Machine) (requests : List Service.Request) :
    (m.runService requests).machine.disk = (m.migrate (some m.platform) none).disk ∧
    (∀ e, (m.migrate (some m.platform) none).answer = .error e →
      (m.runService requests).answer = .error e) ∧
    (∀ o, (m.migrate (some m.platform) none).answer = .ok o →
      (∀ e, (m.runService requests).answer = .error e ↔
        m.databaseSettings = .error .incompleteDatabase ∧ e = .exit 1) ∧
      ((∃ responses, (m.runService requests).answer = .ok responses) ↔
        m.databaseSettings ≠ .error .incompleteDatabase)) ∧
    (∀ e, (m.runService requests).answer = .error e → m.runService requests = m.runService []) ∧
    (∀ responses, (m.runService requests).answer = .ok responses →
      responses.length = requests.length ∧ ∃ s, m.snapshot none = .ok s ∧
        (m.runService requests).machine.snapshot none = .ok s ∧
        ∀ (i : Nat) (r : Service.Request), requests[i]? = some r → r.AsksForReport →
          ∃ x, responses[i]? = some x ∧ x = .json 200 s.value ∧ x.status = 200 ∧
            Json.read x.body = some s.value) := by
  refine ⟨by rw [machine_runService]; rfl, fun e h => ?_, fun o h => ?_,
    fun e h => runService_of_failure h, fun responses h => ?_⟩
  · rw [runService_of_error h]
  · rw [answer_runService_of_ok h]
    cases hs : m.databaseSettings with
    | error e =>
      rw [databaseSettings_error hs]
      simp [eq_comm]
    | ok s => simp
  · obtain ⟨settings, folder, hs, hf, rfl⟩ := responses_of_runService h
    obtain ⟨s, hsnap⟩ := exists_snapshot hs hf
    refine ⟨List.length_map _, s, hsnap, ?_, fun i r hr hasks => ?_⟩
    · rw [machine_runService, started_snapshot, hsnap]
    · rw [List.getElem?_map, hr, Option.map_some,
        Service.answer_of_asksForReport hasks (by rw [started_snapshot, hsnap])]
      exact ⟨_, rfl, rfl, rfl, Service.read_json 200 s.value⟩

theorem start_fails_iff_outdated :
    (outdated.migrate (some outdated.platform) none).answer = .ok .copied ∧
      outdated.databaseSettings ≠ .error .incompleteDatabase ∧
      Service.Request.AsksForReport ⟨"GET", "/config"⟩ ∧
      ∃ responses s, (outdated.runService [⟨"GET", "/config"⟩]).answer = .ok responses ∧
        outdated.snapshot none = .ok s ∧
        ∃ x, responses[0]? = some x ∧ x.status = 200 ∧ Json.read x.body = some s.value := by
  have hm : (outdated.migrate (some outdated.platform) none).answer = .ok .copied := by
    decide +kernel
  have hs : outdated.databaseSettings ≠ .error .incompleteDatabase := by decide +kernel
  have hr : Service.Request.AsksForReport ⟨"GET", "/config"⟩ :=
    ⟨by decide +kernel, by decide +kernel⟩
  obtain ⟨-, -, hok, -, hreport⟩ := start_fails_iff outdated [⟨"GET", "/config"⟩]
  obtain ⟨responses, hanswer⟩ := (hok _ hm).2.mpr hs
  obtain ⟨-, s, hsnapshot, -, hall⟩ := hreport responses hanswer
  obtain ⟨x, hx, -, hstatus, hread⟩ := hall 0 _ rfl hr
  exact ⟨hm, hs, hr, responses, s, hanswer, hsnapshot, x, hx, hstatus, hread⟩

end Machine

end PanelConfig
