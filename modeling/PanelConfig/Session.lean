import PanelConfig.CommandLine
import PanelConfig.Disk.Arrange
import PanelConfig.Startup

/-! Sessions: lists of operations that are performed one after another on one machine. Every
operation gives a report: its answer or its failure, the records that the threshold lets through,
and the machine after it. -/

namespace PanelConfig

/-- A change of a machine from outside; what is not given stays as it is. -/
structure MachineChange where
  environment : List (String × String) := []
  platform : Option String := none
  executable : Option (Option String) := none
  workingFolder : Option FolderQuery := none
  shippedName : Option String := none
  shippedVersion : Option String := none
  legacyFolder : Option String := none
  items : List DiskItem := []
  deriving Repr

namespace Machine

/-- A machine on which nothing is set and nothing is stored. -/
def fresh : Machine where
  environment := {}
  platform := "linux"
  executable := some "/usr/local/x-ui/x-ui"
  workingFolder := .found "/work/cwd"
  shippedName := "x-ui\n"
  shippedVersion := "2.6.0\n"
  legacyFolder := defaultDatabaseFolder
  disk := Disk.fresh
  threshold := .warning

def changed (m : Machine) (c : MachineChange) : Machine :=
  { m with
    environment := c.environment.foldl (fun e x => e.set x.1 x.2) m.environment
    platform := c.platform.getD m.platform
    executable := c.executable.getD m.executable
    workingFolder := c.workingFolder.getD m.workingFolder
    shippedName := c.shippedName.getD m.shippedName
    shippedVersion := c.shippedVersion.getD m.shippedVersion
    legacyFolder := c.legacyFolder.getD m.legacyFolder
    disk := c.items.foldl Disk.place m.disk }

end Machine

inductive Operation where
  | getName
  | getVersion
  | isDebug
  | getLogLevel
  | getBinFolder
  | isWindows (platform : Option String)
  | isEphemeral (path : String)
  | resolveBaseFolder
  | getDatabase
  | requireDatabase
  | getDatabaseFolder (platform : Option String)
  | getDatabasePath (platform : Option String)
  | getLogFolder (platform : Option String)
  | databaseFile (folder : String)
  | connectionText (settings : DatabaseSettings) (platform : Option String)
  | migrate (platform : Option String) (environ : Option Environment)
  | copyFile (source target : String)
  | describe (platform : Option String)
  | severityOf (choice : LevelChoice)
  | setUpLog (choice : LevelChoice)
  | formatLines (entries : List (String × Value))
  | commandLine (args : List String)
  | request (r : Service.Request)
  | runService (requests : List Service.Request)
  | change (c : MachineChange)
  | unset (variableName : String)
  | takeAway (path : String)
  | listDisk

inductive Answer where
  | done
  | text (s : String)
  | flag (b : Bool)
  | level (c : LevelChoice)
  | folder (f : BaseFolder)
  | database (s : DatabaseSettings)
  | outcome (o : MigrationOutcome)
  | snapshot (s : Snapshot)
  | severity (s : Option Severity)
  | logSetUp (applied threshold : Severity)
  | lines (ls : List String)
  | ending (e : CommandLine.Ending)
  | response (r : Service.Response)
  | responses (rs : List Service.Response)
  | listing (entries : List (String × Entry))

/-- What an operation leaves. -/
structure Report where
  answer : Except Failure Answer
  records : List Record
  machine : Machine

namespace Operation

/-- The report of an operation that reads the machine and cannot fail. -/
def reading (m : Machine) (a : Answer) : Report := ⟨.ok a, [], m⟩

/-- The report of an operation that reads the machine and may fail. -/
def trying (m : Machine) (a : Except Failure Answer) : Report := ⟨a, [], m⟩

/-- Performs an operation. The records are all those that it emits; the threshold after it decides
which are let through. -/
def emit (m : Machine) : Operation → Report
  | .getName => reading m (.text m.name)
  | .getVersion => reading m (.text m.version)
  | .isDebug => reading m (.flag m.isDebug)
  | .getLogLevel => reading m (.level m.levelChoice)
  | .getBinFolder => reading m (.text m.binFolder)
  | .isWindows platform => reading m (.flag (m.isWindows platform))
  | .isEphemeral path => reading m (.flag (BaseFolder.isEphemeral path))
  | .resolveBaseFolder => trying m (m.baseFolder.map .folder)
  | .getDatabase => trying m (m.databaseSettings.map .database)
  | .requireDatabase => ⟨m.requiredDatabase.map .database, m.databaseRecords, m⟩
  | .getDatabaseFolder platform => trying m ((m.databaseFolder platform).map .text)
  | .getDatabasePath platform => ⟨(m.databasePath platform).map .text, m.databaseRecords, m⟩
  | .getLogFolder platform => reading m (.text (m.logFolder platform))
  | .databaseFile folder => reading m (.text (m.databaseFile folder))
  | .connectionText settings platform =>
    trying m ((m.connectionText settings platform).map .text)
  | .migrate platform environ =>
    let r := m.migrate platform environ
    ⟨r.answer.map .outcome, r.records, { m with disk := r.disk }⟩
  | .copyFile source target =>
    let r := m.disk.copy (Path.plain source) (Path.plain target)
    ⟨r.1.map fun _ => .done, [], { m with disk := r.2 }⟩
  | .describe platform => trying m ((m.snapshot platform).map .snapshot)
  | .severityOf choice => reading m (.severity choice.severity?)
  | .setUpLog choice =>
    let m := m.withLevel choice
    ⟨.ok (.logSetUp choice.applied m.threshold), choice.records, m⟩
  | .formatLines entries => reading m (.lines (Value.lines entries))
  | .commandLine args =>
    let r := CommandLine.perform m args
    ⟨r.1.map .ending, [], { m with environment := r.2 }⟩
  | .request r => ⟨.ok (.response (Service.answer m r).1), (Service.answer m r).2, m⟩
  | .runService requests =>
    let r := m.runService requests
    ⟨r.answer.map .responses, r.records, r.machine⟩
  | .change c => reading (m.changed c) .done
  | .unset variableName =>
    reading { m with environment := m.environment.unset variableName } .done
  | .takeAway path => reading { m with disk := m.disk.takeAway path } .done
  | .listDisk => reading m (.listing m.disk.listing)

/-- Performs an operation and gives its report. -/
def perform (m : Machine) (op : Operation) : Report :=
  let r := op.emit m
  { r with records := r.machine.threshold.visible r.records }

end Operation

/-- The reports of operations that are performed one after another. -/
def Machine.session (m : Machine) : List Operation → List Report
  | [] => []
  | op :: ops =>
    let r := op.perform m
    r :: r.machine.session ops

end PanelConfig
