import PanelConfig.Proofs.Reports
import PanelConfig.Proofs.Threshold

/-! The settings of the database are refused for one reason, and then by every operation that reads
them, each in its own way: by a failure, by the end of the process, by its exit code or by its
response. Settings that are not refused are those of the environment. -/

namespace PanelConfig

namespace Environment

variable {e : Environment} {s : Setting}

/-- The variable of a setting is not set, or is empty. -/
def Lacks (e : Environment) (s : Setting) : Prop :=
  e.find? s.variableName = none ∨ e.find? s.variableName = some ""

/-- MySQL is chosen, and one of the three settings that it requires is lacking. -/
structure LacksServer (e : Environment) : Prop where
  mysql : Text.lower (e.value .connection) = "mysql"
  lacks : e.Lacks .host ∨ e.Lacks .database ∨ e.Lacks .username

theorem value_eq_empty_iff : e.value s = "" ↔ e.Lacks s := by
  rw [value, Lacks]
  cases e.find? s.variableName with
  | none => simp
  | some v => simp

end Environment

namespace Machine

/-- The settings of the environment as they are taken: the connection in lower case, and for MySQL
its own port where none is set. -/
def takenDatabase (m : Machine) : DatabaseSettings where
  connection := Text.lower (m.environment.value .connection)
  host := m.environment.value .host
  port :=
    if Text.lower (m.environment.value .connection) = "mysql" ∧ m.environment.value .port = "" then
      "3306"
    else m.environment.value .port
  database := m.environment.value .database
  username := m.environment.value .username
  password := m.environment.value .password

variable {m : Machine} {platform : Option String} {e : Failure}

theorem isIncomplete_iff : m.givenDatabase.isIncomplete = true ↔ m.environment.LacksServer := by
  have hgiven : m.givenDatabase.isIncomplete = true ↔
      Text.lower (m.environment.value .connection) = "mysql" ∧
        (m.environment.value .host = "" ∨ m.environment.value .database = "" ∨
          m.environment.value .username = "") := by
    simp only [DatabaseSettings.isIncomplete, DatabaseSettings.isMysql, Bool.and_eq_true,
      Bool.or_eq_true, decide_eq_true_eq, or_assoc]
    rfl
  simp only [Environment.value_eq_empty_iff] at hgiven
  exact hgiven.trans ⟨fun h => ⟨h.1, h.2⟩, fun h => ⟨h.mysql, h.lacks⟩⟩

theorem withPort_givenDatabase (m : Machine) : m.givenDatabase.withPort = m.takenDatabase := by
  by_cases hm : Text.lower (m.environment.value .connection) = "mysql"
  · simp [DatabaseSettings.withPort, DatabaseSettings.isMysql, givenDatabase, takenDatabase,
      DatabaseSettings.mysql, DatabaseSettings.mysqlPort, orElse, hm]
  · simp [DatabaseSettings.withPort, DatabaseSettings.isMysql, givenDatabase, takenDatabase,
      DatabaseSettings.mysql, hm]

theorem databaseSettings_eq_error_iff :
    m.databaseSettings = .error e ↔ m.environment.LacksServer ∧ e = .incompleteDatabase := by
  rw [← isIncomplete_iff, databaseSettings]
  split
  · next h => simp [h, eq_comm]
  · next h => simp [h]

theorem databaseSettings_of_lacksServer (h : m.environment.LacksServer) :
    m.databaseSettings = .error .incompleteDatabase :=
  databaseSettings_eq_error_iff.mpr ⟨h, rfl⟩

theorem databaseSettings_of_not (h : ¬m.environment.LacksServer) :
    m.databaseSettings = .ok m.takenDatabase := by
  rw [databaseSettings, if_neg (fun hi => h (isIncomplete_iff.mp hi)), withPort_givenDatabase]

/-! The failure, on the ways on which it goes. -/

/-- Incomplete settings are found before the folder for databases, which may fail too. -/
theorem snapshot_eq_incomplete_iff :
    m.snapshot platform = .error .incompleteDatabase ↔ m.environment.LacksServer := by
  constructor
  · intro h
    exact (databaseSettings_eq_error_iff.mp (databaseSettings_of_snapshot h)).1
  · intro h
    rw [snapshot, databaseSettings_of_lacksServer h]
    rfl

theorem requiredDatabase_eq_exit_iff {code : Nat} :
    m.requiredDatabase = .error (.exit code) ↔ m.environment.LacksServer ∧ code = 1 := by
  rw [requiredDatabase]
  by_cases h : m.environment.LacksServer
  · rw [databaseSettings_of_lacksServer h]
    simp [h, eq_comm]
  · rw [databaseSettings_of_not h]
    simp [h]

theorem databasePath_eq_exit_iff {code : Nat} :
    m.databasePath platform = .error (.exit code) ↔ m.environment.LacksServer ∧ code = 1 := by
  rw [← requiredDatabase_eq_exit_iff, databasePath]
  cases hs : m.requiredDatabase with
  | error e => simp [Except.bind]
  | ok s =>
    -- what can still fail is the folder, and that does not end the process
    have hne : m.connectionText s platform ≠ .error (.exit code) := by
      rw [connectionText]
      split
      · simp
      · cases hf : m.databaseFolder platform with
        | ok folder => simp [Except.map]
        | error e =>
          obtain ⟨fault, message, -, rfl⟩ := workingFolder_of_databaseFolder hf
          simp [Except.map]
    simp [Except.bind, hne]

theorem databaseRecords_of_lacksServer (h : m.environment.LacksServer) :
    m.databaseRecords = [exitRecord] := by
  rw [databaseRecords, databaseSettings_of_lacksServer h]
  rfl

theorem databaseRecords_of_not (h : ¬m.environment.LacksServer) : m.databaseRecords = [] := by
  rw [databaseRecords, databaseSettings_of_not h]

theorem exitCode_showSnapshot_iff {asJson : Bool} :
    (∃ ending, CommandLine.showSnapshot m asJson = .ok ending ∧ ending.exitCode = 1) ↔
      m.environment.LacksServer := by
  rw [← (snapshot_eq_incomplete_iff : m.snapshot none = _ ↔ _)]
  constructor
  · rintro ⟨ending, hshow, hcode⟩
    rw [CommandLine.showSnapshot] at hshow
    split at hshow
    · next h => exact h
    · cases hshow
    · split at hshow
      · cases hshow
        cases hcode
      · cases hshow
        cases hcode
  · intro h
    exact ⟨_, CommandLine.showSnapshot_incomplete h asJson, rfl⟩

theorem runService_of_lacksServer (h : m.environment.LacksServer)
    (requests : List Service.Request) :
    ∃ e, (m.runService requests).answer = .error e := by
  cases hm : m.openingMigration.answer with
  | error e => exact ⟨e, by rw [runService_of_error hm]⟩
  | ok o =>
    rw [answer_runService_of_ok hm, databaseSettings_of_lacksServer h]
    exact ⟨.exit 1, rfl⟩

end Machine

namespace Service

/-- The response tells of a failure that was expected, as it can be read. -/
def Response.TellsFailure (x : Response) : Prop :=
  x.status = 500 ∧ ∃ detail, detail ≠ "Internal server error" ∧
    Json.read x.body = some (.mapping [("detail", .text detail)])

theorem not_tellsFailure_broken : ¬Response.broken.TellsFailure := by
  rintro ⟨-, detail, hne, hread⟩
  rw [Response.broken, Response.detail, read_json] at hread
  cases hread
  exact hne rfl

theorem tellsFailure_answer_iff {m : Machine} {r : Request} (h : r.AsksFor .config) :
    (answer m r).1.TellsFailure ↔ m.environment.LacksServer := by
  constructor
  · intro ht
    cases hs : m.snapshot none with
    | ok s =>
      rw [answer_of_snapshot h hs] at ht
      cases ht.1
    | error e =>
      by_cases he : e = .incompleteDatabase
      · exact Machine.snapshot_eq_incomplete_iff.mp (he ▸ hs)
      · rw [answer_of_failure h hs he] at ht
        exact absurd ht not_tellsFailure_broken
  · intro hl
    rw [answer_of_incomplete h (Machine.snapshot_eq_incomplete_iff.mpr hl)]
    exact ⟨rfl, _, by decide, read_json 500 _⟩

end Service

namespace Machine

/-- Incomplete settings of the database are refused by all operations alike, and nothing else is
refused in the same way. They make the settings and the report fail with the same cause, whether or
not the working folder can be told; the operations that require the settings end the process with
the one record that tells why, which every threshold lets through; the command line ends with an
error; and the service responds with the cause, and cannot be started. Complete settings are taken
from the environment as they are, but for the case of the connection and the port of MySQL. -/
theorem incomplete_settings_refused_alike (m : Machine) (platform : Option String) :
    ((Operation.getDatabase.perform m).answer = .error .incompleteDatabase ↔
      m.environment.LacksServer) ∧
    (∀ folder : FolderQuery, ((Operation.describe platform).perform
        { m with workingFolder := folder }).answer = .error .incompleteDatabase ↔
      m.environment.LacksServer) ∧
    (∀ op ∈ [Operation.requireDatabase, .getDatabasePath platform],
      ((op.perform m).answer = .error (.exit 1) ∧ (op.perform m).records = [exitRecord] ↔
        m.environment.LacksServer) ∧
      (¬m.environment.LacksServer → (∀ code, (op.perform m).answer ≠ .error (.exit code)) ∧
        (op.perform m).records = [])) ∧
    (∀ args ∈ [["show"], ["show", "--json"]],
      (∃ ending, ((Operation.commandLine args).perform m).answer = .ok (.ending ending) ∧
        ending.exitCode = 1) ↔ m.environment.LacksServer) ∧
    (∀ r : Service.Request, r.AsksFor .config →
      ((∃ x, ((Operation.request r).perform m).answer = .ok (.response x) ∧ x.TellsFailure) ↔
        m.environment.LacksServer)) ∧
    (m.environment.LacksServer → ∀ requests,
      ∃ e, ((Operation.runService requests).perform m).answer = .error e) ∧
    (¬m.environment.LacksServer →
      (Operation.getDatabase.perform m).answer = .ok (.database m.takenDatabase)) := by
  refine ⟨?_, fun folder => ?_, fun op hop => ?_, fun args hargs => ?_, fun r hr => ?_,
    fun h requests => ?_, fun h => ?_⟩
  · show m.databaseSettings.map _ = _ ↔ _
    rw [map_eq_error_iff, databaseSettings_eq_error_iff]
    simp
  · show Except.map _ _ = _ ↔ _
    rw [map_eq_error_iff, snapshot_eq_incomplete_iff]
  · have hanswer : ∀ code, (op.perform m).answer = .error (.exit code) ↔
        m.environment.LacksServer ∧ code = 1 := by
      intro code
      rcases List.mem_pair.mp hop with rfl | rfl
      · exact map_eq_error_iff.trans requiredDatabase_eq_exit_iff
      · exact map_eq_error_iff.trans databasePath_eq_exit_iff
    have hrecords : (op.perform m).records = m.threshold.visible m.databaseRecords := by
      rcases List.mem_pair.mp hop with rfl | rfl
      · rfl
      · rfl
    rw [hanswer, hrecords]
    constructor
    · constructor
      · rintro ⟨⟨h, -⟩, -⟩
        exact h
      · intro h
        rw [databaseRecords_of_lacksServer h, Severity.visible_error rfl]
        exact ⟨⟨h, rfl⟩, rfl⟩
    · intro h
      refine ⟨fun code hexit => h ((hanswer code).mp hexit).1, ?_⟩
      rw [databaseRecords_of_not h]
      rfl
  · have hshow : ∃ asJson, ((Operation.commandLine args).perform m).answer =
        (CommandLine.showSnapshot m asJson).map .ending := by
      rcases List.mem_pair.mp hargs with rfl | rfl
      · exact ⟨false, congrArg (·.1.map Answer.ending) (CommandLine.perform_show m false)⟩
      · exact ⟨true, congrArg (·.1.map Answer.ending) (CommandLine.perform_show m true)⟩
    obtain ⟨asJson, hshow⟩ := hshow
    simp only [hshow, map_eq_ok_iff fun _ _ => Answer.ending.inj]
    exact exitCode_showSnapshot_iff
  · have hanswer : ((Operation.request r).perform m).answer =
        .ok (.response (Service.answer m r).1) := rfl
    rw [hanswer, ← Service.tellsFailure_answer_iff hr]
    simp
  · obtain ⟨e, he⟩ := runService_of_lacksServer h requests
    exact ⟨e, map_eq_error_iff.mpr he⟩
  · exact (map_eq_ok_iff fun _ _ => Answer.database.inj).mpr (databaseSettings_of_not h)

/-- The machine with all that is required of a MySQL server, and no port. -/
def withServer (m : Machine) : Machine :=
  { m with environment := ⟨[("XUI_DB_CONNECTION", "MySQL"), ("XUI_DB_HOST", "db"),
      ("XUI_DB_PORT", ""), ("XUI_DB_DATABASE", "panel"), ("XUI_DB_USERNAME", "u")]⟩ }

/-- A machine adrift without a server is told of the settings, not of the folder that is lost; with
one, the port is that of MySQL. -/
theorem incomplete_settings_refused_alike_adrift :
    outdated.adrift.withoutServer.environment.LacksServer ∧
      ((Operation.describe none).perform outdated.adrift.withoutServer).answer =
        .error .incompleteDatabase ∧
      ((Operation.getDatabasePath none).perform outdated.adrift.withoutServer).records =
        [exitRecord] ∧
      (∃ ending, ((Operation.commandLine ["show"]).perform outdated.adrift.withoutServer).answer =
        .ok (.ending ending) ∧ ending.exitCode = 1) ∧
      Service.Request.AsksFor .config ⟨"GET", "/config"⟩ ∧
      (∃ x, ((Operation.request ⟨"GET", "/config"⟩).perform
        outdated.adrift.withoutServer).answer = .ok (.response x) ∧ x.TellsFailure) ∧
      (∃ e, ((Operation.runService []).perform outdated.adrift.withoutServer).answer = .error e) ∧
      ¬outdated.withServer.environment.LacksServer ∧
      (Operation.getDatabase.perform outdated.withServer).answer =
        .ok (.database ⟨"mysql", "db", "3306", "panel", "u", ""⟩) := by
  have hlacks : outdated.adrift.withoutServer.environment.LacksServer :=
    ⟨by decide +kernel, .inl (.inl (by decide +kernel))⟩
  have hr : Service.Request.AsksFor .config ⟨"GET", "/config"⟩ :=
    ⟨by decide +kernel, by decide +kernel⟩
  have hserver : ¬outdated.withServer.environment.LacksServer := by
    rintro ⟨-, h⟩
    simp only [← Environment.value_eq_empty_iff] at h
    exact absurd h (by decide +kernel)
  have htaken : outdated.withServer.takenDatabase = ⟨"mysql", "db", "3306", "panel", "u", ""⟩ := by
    decide +kernel
  obtain ⟨-, hsnapshot, hexit, hshow, hrequest, hstart, -⟩ :=
    incomplete_settings_refused_alike outdated.adrift.withoutServer none
  obtain ⟨-, -, -, -, -, -, hcomplete⟩ := incomplete_settings_refused_alike outdated.withServer none
  refine ⟨hlacks, (hsnapshot _).mpr hlacks, ?_, ?_, hr, (hrequest _ hr).mpr hlacks,
    hstart hlacks [], hserver, ?_⟩
  · exact ((hexit _ (List.mem_pair.mpr (.inr rfl))).1.mpr hlacks).2
  · exact (hshow _ (List.mem_pair.mpr (.inl rfl))).mpr hlacks
  · rw [← htaken]
    exact hcomplete hserver

end Machine

end PanelConfig
