import PanelConfig.BaseFolder

/-! How the panel reaches its database: a MySQL server, or a file. -/

namespace PanelConfig

structure DatabaseSettings where
  connection : String
  host : String
  port : String
  database : String
  username : String
  password : String
  deriving DecidableEq, Repr

namespace DatabaseSettings

/-- The connection to a MySQL server. Every other connection is to a file. -/
def mysql : String := "mysql"

def mysqlPort : String := "3306"

def isMysql (s : DatabaseSettings) : Bool := s.connection = mysql

/-- MySQL is chosen and one of its three required settings is empty. -/
def isIncomplete (s : DatabaseSettings) : Bool :=
  s.isMysql && (s.host = "" || s.database = "" || s.username = "")

/-- The settings with the port of MySQL in place of an empty one, if MySQL is chosen. -/
def withPort (s : DatabaseSettings) : DatabaseSettings :=
  if s.isMysql then { s with port := orElse s.port mysqlPort } else s

/-- The parameters at the end of the text of a connection. -/
def parameters : String := "?charset=utf8mb4&parseTime=True&loc=Local"

def dataSource (s : DatabaseSettings) : String :=
  s.username ++ ":" ++ s.password ++ "@tcp(" ++ s.host ++ ":" ++ s.port ++ ")/" ++ s.database
    ++ parameters

end DatabaseSettings

def databaseEnding : String := ".db"

namespace Machine

variable (m : Machine)

/-- The settings as they stand in the environment, the connection in lower case. -/
def givenDatabase : DatabaseSettings where
  connection := Text.lower (m.environment.value .connection)
  host := m.environment.value .host
  port := m.environment.value .port
  database := m.environment.value .database
  username := m.environment.value .username
  password := m.environment.value .password

def databaseSettings : Except Failure DatabaseSettings :=
  if m.givenDatabase.isIncomplete then .error .incompleteDatabase
  else .ok m.givenDatabase.withPort

/-- What is logged when the settings are required: an error if they are incomplete. -/
def databaseRecords : List Record :=
  match m.databaseSettings with
  | .ok _ => []
  | .error e => [⟨.error, .settings, s!"Error getting database config: {e.message}"⟩]

/-- The settings of the database connection; where they are incomplete, the process ends. -/
def requiredDatabase : Except Failure DatabaseSettings :=
  match m.databaseSettings with
  | .ok s => .ok s
  | .error _ => .error (.exit 1)

def databaseFolder (platform : Option String) : Except Failure String :=
  if m.environment.value .databaseFolder ≠ "" then .ok (m.environment.value .databaseFolder)
  else if m.isWindows platform then m.baseFolder.map BaseFolder.path
  else .ok m.legacyFolder

def databaseFile (folder : String) : String := folder ++ "/" ++ m.name ++ databaseEnding

/-- The text of a connection: that of a MySQL server, or the path of the database file. -/
def connectionText (s : DatabaseSettings) (platform : Option String) : Except Failure String :=
  if s.isMysql then .ok s.dataSource else (m.databaseFolder platform).map m.databaseFile

/-- The text of the connection that is set; where the settings are incomplete, the process ends. -/
def databasePath (platform : Option String) : Except Failure String :=
  m.requiredDatabase.bind fun s => m.connectionText s platform

end Machine

end PanelConfig
