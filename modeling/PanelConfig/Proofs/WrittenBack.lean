import PanelConfig.Proofs.InEffect
import PanelConfig.Proofs.ReadAlike
import PanelConfig.Proofs.Recognition
import PanelConfig.Proofs.Text.Lowered

/-! Settings of the database connection that are written back to the variables that they are taken
from. What is taken is taken as it stands from then on: the connection is in lower case already, and
the port is no longer empty where it must not be. Main statement: to write the settings back changes
neither them nor anything else that the panel reports. -/

namespace PanelConfig

namespace DatabaseSettings

variable {s : DatabaseSettings}

/-- The settings are taken as they stand: the connection is in lower case, and for a MySQL server
all is there but perhaps the password. -/
structure IsResolved (s : DatabaseSettings) : Prop where
  connection : Text.lower s.connection = s.connection
  server : s.isMysql = true → s.host ≠ "" ∧ s.port ≠ "" ∧ s.database ≠ "" ∧ s.username ≠ ""

theorem IsResolved.isIncomplete (h : s.IsResolved) : s.isIncomplete = false := by
  rw [DatabaseSettings.isIncomplete]
  cases hm : s.isMysql with
  | false => rfl
  | true =>
    obtain ⟨hhost, -, hdatabase, husername⟩ := h.server hm
    simp [hhost, hdatabase, husername]

theorem IsResolved.withPort (h : s.IsResolved) : s.withPort = s := by
  rw [DatabaseSettings.withPort]
  split
  · next hm =>
    obtain ⟨-, hport, -, -⟩ := h.server hm
    rw [orElse, if_neg hport]
  · rfl

theorem connection_withPort (s : DatabaseSettings) : s.withPort.connection = s.connection := by
  rw [withPort]
  split
  · rfl
  · rfl

/-- The variables of the database connection, each with its setting as the value. -/
def assignments (s : DatabaseSettings) : List (String × String) := [
  (Setting.connection.variableName, s.connection),
  (Setting.host.variableName, s.host),
  (Setting.port.variableName, s.port),
  (Setting.database.variableName, s.database),
  (Setting.username.variableName, s.username),
  (Setting.password.variableName, s.password)]

theorem isDatabaseVariable_of_mem_assignments {x : String × String} (hx : x ∈ s.assignments) :
    isDatabaseVariable x.1 = true := by
  simp only [assignments, List.mem_cons, List.not_mem_nil, or_false] at hx
  rcases hx with rfl | rfl | rfl | rfl | rfl | rfl
  all_goals simp only [isDatabaseVariable_variableName, Setting.isOfDatabase]

end DatabaseSettings

namespace Machine

variable {m : Machine} {s : DatabaseSettings}

/-- The machine with settings written to the variables of the database connection. -/
def withDatabase (m : Machine) (s : DatabaseSettings) : Machine :=
  m.changed { environment := s.assignments }

theorem isResolved_of_databaseSettings (h : m.databaseSettings = .ok s) : s.IsResolved where
  connection := by
    have htaken := h
    rw [databaseSettings] at htaken
    split at htaken
    · cases htaken
    · cases htaken
      rw [DatabaseSettings.connection_withPort]
      exact Text.lower_lower _
  server := ne_empty_of_isMysql h

theorem databaseSettings_of_isResolved (h : s.IsResolved) (hm : m.givenDatabase = s) :
    m.databaseSettings = .ok s := by
  rw [databaseSettings, hm, h.isIncomplete, if_neg Bool.false_ne_true, h.withPort]

theorem givenDatabase_withDatabase (m : Machine) (s : DatabaseSettings) :
    (m.withDatabase s).givenDatabase = { s with connection := Text.lower s.connection } := by
  simp [givenDatabase, withDatabase, changed, DatabaseSettings.assignments, Environment.value_set,
    Setting.variableName]

theorem value_withDatabase {setting : Setting} (h : setting.isOfDatabase = false) (m : Machine)
    (s : DatabaseSettings) :
    (m.withDatabase s).environment.value setting = m.environment.value setting := by
  apply Environment.value_foldl_set_of_ne
  intro x hx hname
  have hvariable := DatabaseSettings.isDatabaseVariable_of_mem_assignments hx
  rw [← hname, isDatabaseVariable_variableName, h] at hvariable
  cases hvariable

theorem databaseSettings_withDatabase (h : s.IsResolved) (m : Machine) :
    (m.withDatabase s).databaseSettings = .ok s := by
  apply databaseSettings_of_isResolved h
  rw [givenDatabase_withDatabase, h.connection]

theorem readsAlike_withDatabase (h : m.databaseSettings = .ok s) :
    (m.withDatabase s).ReadsAlike m where
  databaseSettings := by
    rw [databaseSettings_withDatabase (isResolved_of_databaseSettings h), h]
  value _ hs := value_withDatabase hs m s
  platform := rfl
  executable := rfl
  workingFolder := rfl
  shippedName := rfl
  shippedVersion := rfl
  legacyFolder := rfl
  disk := rfl
  threshold := rfl

/-- To write the settings of the database connection back changes nothing. Where they can be taken,
whatever the text of the connection, they are the same after they are written to their variables;
and every session that leaves these variables alone, of whatever operations for whatever platforms,
gives the same answers and failures, the same records and the same disks before and after. -/
theorem settings_written_back_change_nothing (h : m.databaseSettings = .ok s) :
    (m.withDatabase s).databaseSettings = .ok s ∧
      ∀ ops : List Operation, (∀ op ∈ ops, op.setsDatabase = false) →
        List.Forall₂ (Report.Alike ReadsAlike) ((m.withDatabase s).session ops) (m.session ops) :=
  ⟨databaseSettings_withDatabase (isResolved_of_databaseSettings h) m,
    fun _ hops => (readsAlike_withDatabase h).session hops⟩

/-- A session that asks for all that hangs on the settings of the database connection. -/
def databaseSession : List Operation :=
  [.getDatabase, .getDatabasePath (some "win32"), .describe none, .commandLine ["show", "--json"],
    .runService [⟨"GET", "/config"⟩], .getDatabasePath none]

/-- The lower case of the connection of a file has one more character than the connection, and ends
with the final form of sigma; for a server the port is written out. -/
theorem settings_written_back_change_nothing_sigma :
    let lowered : DatabaseSettings := ⟨"i\u0307\u03C3\u03B1\u03C2", "", "", "", "", ""⟩
    let server : DatabaseSettings := ⟨"mysql", "db", "3306", "panel", "u", ""⟩
    let file := fresh.connectedTo "\u0130\u03A3\u0391\u03A3"
    file.databaseSettings = .ok lowered ∧
      (file.withDatabase lowered).databaseSettings = .ok lowered ∧
      outdated.withServer.environment.value .port = "" ∧
      outdated.withServer.databaseSettings = .ok server ∧
      (outdated.withServer.withDatabase server).environment.value .port = "3306" ∧
      (∀ op ∈ databaseSession, op.setsDatabase = false) ∧
      List.Forall₂ (Report.Alike ReadsAlike)
        ((outdated.withServer.withDatabase server).session databaseSession)
        (outdated.withServer.session databaseSession) := by
  intro lowered server file
  have hfile : file.databaseSettings = .ok lowered := by decide +kernel
  have hserver : outdated.withServer.databaseSettings = .ok server := by decide +kernel
  have hops : ∀ op ∈ databaseSession, op.setsDatabase = false := by decide
  obtain ⟨hkept, -⟩ := settings_written_back_change_nothing hfile
  obtain ⟨-, hsession⟩ := settings_written_back_change_nothing hserver
  exact ⟨hfile, hkept, by decide +kernel, hserver, by decide +kernel, hops,
    hsession databaseSession hops⟩

end Machine

end PanelConfig
