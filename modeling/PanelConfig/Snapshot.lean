import PanelConfig.Database
import PanelConfig.Value

/-! The report on the configuration: every setting as it is in effect, without the password. -/

namespace PanelConfig

structure DatabaseReport where
  connection : String
  host : String
  port : String
  database : String
  username : String
  deriving DecidableEq, Repr

structure Snapshot where
  name : String
  version : String
  logLevel : String
  debug : Bool
  binFolder : String
  databaseFolder : String
  logFolder : String
  database : DatabaseReport
  deriving DecidableEq, Repr

/-- The connection that is reported where none is chosen. -/
def DatabaseReport.fileConnection : String := "sqlite"

/-- The report on the settings of a connection. -/
def DatabaseSettings.report (s : DatabaseSettings) : DatabaseReport where
  connection := orElse s.connection DatabaseReport.fileConnection
  host := s.host
  port := s.port
  database := s.database
  username := s.username

/-- The entries of a report on a connection, in order. -/
def DatabaseReport.entries (r : DatabaseReport) : List (String × Value) := [
  ("connection", .text r.connection),
  ("host", .text r.host),
  ("port", .text r.port),
  ("database", .text r.database),
  ("username", .text r.username)]

namespace Snapshot

def entries (s : Snapshot) : List (String × Value) := [
  ("name", .text s.name),
  ("version", .text s.version),
  ("log_level", .text s.logLevel),
  ("debug", .flag s.debug),
  ("bin_folder", .text s.binFolder),
  ("db_folder", .text s.databaseFolder),
  ("log_folder", .text s.logFolder),
  ("database", .mapping s.database.entries)]

def value (s : Snapshot) : Value := .mapping s.entries

end Snapshot

/-- The report on the configuration of a machine. Incomplete settings of the database are found
first. -/
def Machine.snapshot (m : Machine) (platform : Option String) : Except Failure Snapshot :=
  m.databaseSettings.bind fun settings =>
    (m.databaseFolder platform).map fun folder =>
      { name := m.name
        version := m.version
        logLevel := m.levelChoice.text
        debug := m.isDebug
        binFolder := m.binFolder
        databaseFolder := folder
        logFolder := m.logFolder platform
        database := settings.report }

end PanelConfig
