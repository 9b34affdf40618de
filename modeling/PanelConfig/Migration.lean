import PanelConfig.Database
import PanelConfig.Disk.Copy

/-! The migration of the database file. Older releases kept it in one folder on every platform; on
Windows it now lies in the base folder, and is copied there once, unless its folder is set. A
database that is there already is never overwritten. -/

namespace PanelConfig

inductive MigrationOutcome where
  | skippedPlatform
  | skippedOverride
  | newExists
  | oldMissing
  | copied
  | failed
  deriving DecidableEq, Repr

namespace MigrationOutcome

def all : List MigrationOutcome :=
  [.skippedPlatform, .skippedOverride, .newExists, .oldMissing, .copied, .failed]

def text : MigrationOutcome → String
  | .skippedPlatform => "skipped_platform"
  | .skippedOverride => "skipped_override"
  | .newExists => "new_exists"
  | .oldMissing => "old_missing"
  | .copied => "copied"
  | .failed => "failed"

end MigrationOutcome

/-- What a migration leaves: its outcome or the failure that ended it, what it logged, and the
disk. -/
structure Migration where
  answer : Except Failure MigrationOutcome
  records : List Record
  disk : Disk

namespace Machine

variable (m : Machine)

def oldDatabase : String := Path.plain (m.databaseFile m.legacyFolder)

/-- The path to which the database file is moved. -/
def newDatabase (base : BaseFolder) : String := Path.plain (m.databaseFile base.path)

/-- Copies the database file. A failure of the system is logged and contained. -/
def moveDatabase (plan : FaultPlan) (old new : String) : Migration :=
  match m.disk.copyUnder plan old new with
  | (.ok (), disk) =>
    ⟨.ok .copied, [⟨.info, .settings, s!"Migrated database from {old} to {new}"⟩], disk⟩
  | (.error e, disk) =>
    if e.isSystem then
      ⟨.ok .failed,
        [⟨.warning, .settings, s!"Failed to migrate database from {old}: {e.message}"⟩], disk⟩
    else ⟨.error e, [], disk⟩

/-- Migrates the database file of a platform, under a plan of device faults. `environ` stands in for
the environment of the machine where the override is looked up. -/
def migrateUnder (plan : FaultPlan) (platform : Option String) (environ : Option Environment) :
    Migration :=
  if !m.isWindows platform then ⟨.ok .skippedPlatform, [], m.disk⟩
  else if (environ.getD m.environment).value .databaseFolder ≠ "" then
    ⟨.ok .skippedOverride, [], m.disk⟩
  else match m.baseFolder with
    | .error e => ⟨.error e, [], m.disk⟩
    | .ok base =>
      match m.disk.hasEntry (m.newDatabase base) with
      | .error e => ⟨.error e, [], m.disk⟩
      | .ok true => ⟨.ok .newExists, [], m.disk⟩
      | .ok false =>
        match m.disk.hasEntry m.oldDatabase with
        | .error e => ⟨.error e, [], m.disk⟩
        | .ok false => ⟨.ok .oldMissing, [], m.disk⟩
        | .ok true => m.moveDatabase plan m.oldDatabase (m.newDatabase base)

/-- Migrates the database file of a platform on a device that does not fail. -/
def migrate (platform : Option String) (environ : Option Environment) : Migration :=
  m.migrateUnder FaultPlan.none platform environ

end Machine

end PanelConfig
