import PanelConfig.Migration
import PanelConfig.Service

/-! The life of the service: the start, which sets up the log, migrates the database file and reads
the settings, then the requests, then the end. A start that fails answers no request. -/

namespace PanelConfig

/-- What the life of the service leaves: the answers to the requests, or the failure that ended the
start, what was logged, and the machine. -/
structure ServiceRun where
  answer : Except Failure (List Service.Response)
  records : List Record
  machine : Machine

namespace Machine

variable (m : Machine)

/-- The machine with its log set up for a choice of level. -/
def withLevel (c : LevelChoice) : Machine := { m with threshold := c.applied }

/-- A record of the service for information. -/
def note (message : String) : Record := ⟨.info, .service, message⟩

/-- What the start logs of the database: where it is, without the password. -/
def databaseNote (s : DatabaseSettings) : Except Failure Record :=
  if s.isMysql then .ok (note s!"Database: mysql at {s.host}:{s.port}")
  else (m.connectionText s none).map fun text => note s!"Database: {text}"

/-- The answers to requests one after another, and what they log. -/
def serve (requests : List Service.Request) : List Service.Response × List Record :=
  let answers := requests.map (Service.answer m)
  (answers.map Prod.fst, answers.flatMap Prod.snd)

/-- What follows the migration: the folders and the settings of the database are read, requests are
answered, and the service ends. -/
def serveConfigured (requests : List Service.Request) :
    Except Failure (List Service.Response) × List Record :=
  let folders := [note s!"Binary folder: {m.binFolder}", note s!"Log folder: {m.logFolder none}"]
  match m.requiredDatabase with
  | .error e => (.error e, folders ++ m.databaseRecords)
  | .ok s =>
    match m.databaseNote s with
    | .error e => (.error e, folders)
    | .ok database =>
      let (responses, records) := m.serve requests
      (.ok responses, folders ++ database :: records ++ [note s!"Shutting down {m.name}..."])

def runService (requests : List Service.Request) : ServiceRun :=
  let opening := m.levelChoice.records ++ [note s!"Starting {m.name} {m.version}..."]
  let m := m.withLevel m.levelChoice
  let migration := m.migrate (some m.platform) none
  let m := { m with disk := migration.disk }
  match migration.answer with
  | .error e => ⟨.error e, opening ++ migration.records, m⟩
  | .ok outcome =>
    let (responses, records) := m.serveConfigured requests
    ⟨responses,
      opening ++ migration.records
        ++ ⟨.debug, .service, s!"Legacy database migration: {outcome.text}"⟩ :: records, m⟩

end Machine

end PanelConfig
