import PanelConfig.Failure

/-! The environment variables from which the panel takes its settings. -/

namespace PanelConfig

/-- The settings that are taken from the environment. -/
inductive Setting where
  | debug
  | logLevel
  | binFolder
  | databaseFolder
  | logFolder
  | connection
  | host
  | port
  | database
  | username
  | password
  deriving DecidableEq, Repr

def Setting.all : List Setting :=
  [.debug, .logLevel, .binFolder, .databaseFolder, .logFolder, .connection, .host, .port, .database,
    .username, .password]

def Setting.variableName : Setting → String
  | .debug => "XUI_DEBUG"
  | .logLevel => "XUI_LOG_LEVEL"
  | .binFolder => "XUI_BIN_FOLDER"
  | .databaseFolder => "XUI_DB_FOLDER"
  | .logFolder => "XUI_LOG_FOLDER"
  | .connection => "XUI_DB_CONNECTION"
  | .host => "XUI_DB_HOST"
  | .port => "XUI_DB_PORT"
  | .database => "XUI_DB_DATABASE"
  | .username => "XUI_DB_USERNAME"
  | .password => "XUI_DB_PASSWORD"

structure Environment where
  entries : List (String × String) := []
  deriving Repr

namespace Environment

def find? (e : Environment) (name : String) : Option String := e.entries.lookup name

/-- The value of a setting. A variable that is not set counts as empty. -/
def value (e : Environment) (s : Setting) : String := (e.find? s.variableName).getD ""

def unset (e : Environment) (name : String) : Environment :=
  ⟨e.entries.filter fun x => x.1 ≠ name⟩

/-- The environment with a variable set to `v`. -/
def set (e : Environment) (name v : String) : Environment := ⟨(name, v) :: (e.unset name).entries⟩

/-- Sets a variable through the system, which refuses a value with a null character. -/
def assign (e : Environment) (name v : String) : Except Failure Environment :=
  if v.toList.contains '\x00' then .error .nullCharacter else .ok (e.set name v)

end Environment

end PanelConfig
