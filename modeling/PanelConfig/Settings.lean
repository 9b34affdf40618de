import PanelConfig.Level
import PanelConfig.Machine
import PanelConfig.Text.Blank

/-! The settings of the panel: who it is, how much it logs and where it keeps its things. An empty
variable is the same as one that is not set. -/

namespace PanelConfig

/-- The folder for databases off Windows. -/
def defaultDatabaseFolder : String := "/etc/x-ui"

/-- The folder for log files off Windows. -/
def defaultLogFolder : String := "/var/log"

/-- The folder for log files on Windows. -/
def windowsLogFolder : String := "./log"

def defaultBinFolder : String := "bin"

/-- The text, or `fallback` in place of an empty one. -/
def orElse (s fallback : String) : String := if s = "" then fallback else s

namespace Machine

variable (m : Machine)

def name : String := Text.trim m.shippedName

def version : String := Text.trim m.shippedVersion

/-- Debugging is on; only the very word `true` turns it on. -/
def isDebug : Bool := m.environment.value .debug = "true"

/-- The level of the log: debugging wins, then comes the level that is set, as it is written. -/
def levelChoice : LevelChoice :=
  if m.isDebug then .known .debug
  else if m.environment.value .logLevel = "" then .known .info
  else .written (m.environment.value .logLevel)

def binFolder : String := orElse (m.environment.value .binFolder) defaultBinFolder

/-- The platform that an operation is about: the given one, or that of the machine. -/
def platformOr (platform : Option String) : String := orElse (platform.getD "") m.platform

/-- The platform that an operation is about is some Windows. -/
def isWindows (platform : Option String) : Bool :=
  "win".toList.isPrefixOf (m.platformOr platform).toList

def logFolder (platform : Option String) : String :=
  orElse (m.environment.value .logFolder)
    (if m.isWindows platform then windowsLogFolder else defaultLogFolder)

end Machine

end PanelConfig
