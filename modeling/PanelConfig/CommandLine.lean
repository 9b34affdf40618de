import PanelConfig.CommandLine.Help
import PanelConfig.Json
import PanelConfig.Snapshot
import PanelConfig.Text.Integer
import PanelConfig.Text.Terminal

/-! The command line of the panel: `run` starts the server after it has set the environment as its
options say, `show` reports the configuration. -/

namespace PanelConfig.CommandLine

/-- The release that the command line reports. -/
def release : String := "2.6.0"

def defaultHost : String := "0.0.0.0"

def defaultPort : Int := 2053

structure ServerStart where
  host : String
  port : Int
  reload : Bool
  deriving DecidableEq, Repr

/-- The application that the server is started with. -/
def ServerStart.application : String := "xui.app:app"

structure Ending where
  exitCode : Nat
  stdout : String
  stderr : String
  servers : List ServerStart
  deriving DecidableEq, Repr

namespace Ending

/-- An end without an error that prints a text. -/
def printed (text : String) : Ending := ⟨0, Text.streamed text, "", []⟩

/-- An end with an error that prints a text. -/
def failed (exitCode : Nat) (text : String) : Ending := ⟨exitCode, "", Text.streamed text, []⟩

end Ending

def complain (scope : Scope) (fault : UsageFault) : Ending := .failed 2 (scope.complaint fault)

structure RunOptions where
  host : String
  port : Int
  reload : Bool
  debug : Bool
  level : String
  databaseFolder : String
  deriving DecidableEq, Repr

namespace RunOptions

/-- The port that is given last, or the default one. -/
def portOf (a : Arguments) : Except UsageFault Int :=
  match a.last? "--port" with
  | none => .ok defaultPort
  | some value =>
    match Text.readInteger value with
    | some port => .ok port
    | none => .error (.notAnInteger "--port" value)

/-- The options as the arguments give them; of an option that is repeated the last value counts. -/
def ofArguments (a : Arguments) : Except UsageFault RunOptions :=
  (portOf a).bind fun port =>
    if a.rest ≠ [] then .error (.extraArguments a.rest)
    else .ok {
      host := (a.last? "--host").getD defaultHost
      port := port
      reload := a.has "--reload"
      debug := a.has "--debug"
      level := (a.last? "--log-level").getD ""
      databaseFolder := (a.last? "--db-folder").getD "" }

/-- The variables that the options set, in order. An empty value sets none. -/
def exports (o : RunOptions) : List (Setting × String) :=
  [(.debug, if o.debug then "true" else ""), (.logLevel, o.level),
    (.databaseFolder, o.databaseFolder)].filter fun x => x.2 ≠ ""

end RunOptions

/-- Sets variables one after another, up to the first that the system refuses. -/
def assignAll : List (Setting × String) → Environment → Except Failure Unit × Environment
  | [], e => (.ok (), e)
  | (s, v) :: rest, e =>
    match e.assign s.variableName v with
    | .ok e => assignAll rest e
    | .error failure => (.error failure, e)

variable (m : Machine)

/-- The line with which `run` announces the server. -/
def banner (o : RunOptions) : String := s!"Starting {m.name} {m.version} on {o.host}:{o.port}\n"

/-- Starts the server, after the environment is set. -/
def startServer (o : RunOptions) : Except Failure Ending × Environment :=
  match assignAll o.exports m.environment with
  | (.error failure, e) => (.error failure, e)
  | (.ok (), e) =>
    (.ok { Ending.printed (banner m o) with servers := [⟨o.host, o.port, o.reload⟩] }, e)

/-- Reports the configuration, as JSON or line by line. -/
def showSnapshot (asJson : Bool) : Except Failure Ending :=
  match m.snapshot none with
  | .error .incompleteDatabase =>
    .ok (.failed 1 s!"Error: {Failure.incompleteDatabase.message}\n")
  | .error failure => .error failure
  | .ok snapshot =>
    if asJson then .ok (.printed (Json.text Json.indented snapshot.value ++ "\n"))
    else .ok (.printed (String.join ((Value.lines snapshot.entries).map (· ++ "\n"))))

def performCommand (c : Command) (args : List String) : Except Failure Ending × Environment :=
  match sortArguments c.options true args with
  | .error fault => (.ok (complain (some c) fault), m.environment)
  | .ok a =>
    if a.has helpOption.name then (.ok (.printed (Scope.help (some c))), m.environment)
    else match c with
      | .run =>
        match RunOptions.ofArguments a with
        | .error fault => (.ok (complain (some .run) fault), m.environment)
        | .ok o => startServer m o
      | .show =>
        if a.rest ≠ [] then
          (.ok (complain (some .show) (.extraArguments a.rest)), m.environment)
        else (showSnapshot m (a.has "--json"), m.environment)

/-- The end of a command line whose options before the command ask for something: the first of them
decides. -/
def panelRequest? (a : Arguments) : Option Ending :=
  a.given.head?.map fun o =>
    if o.1 = versionOption.name then .printed s!"{programName}, version {release}\n"
    else .printed (Scope.help none)

/-- The end of a command line with an unknown command. The word may be an option after all, which
is then taken as such. -/
def unknownCommand (word : String) (args : List String) : Ending :=
  match sortArguments panelOptions false (word :: args) with
  | .error fault => complain none fault
  | .ok a =>
    (panelRequest? a).getD (complain none
      (.noSuchCommand word (Text.Likeness.nearest word (Command.all.map Command.name))))

/-- Performs a command line: its end, or the failure that broke it off, and the environment after
it. -/
def perform (args : List String) : Except Failure Ending × Environment :=
  if args = [] then (.ok (.failed 2 (Scope.help none)), m.environment)
  else match sortArguments panelOptions false args with
    | .error fault => (.ok (complain none fault), m.environment)
    | .ok a =>
      match panelRequest? a with
      | some ending => (.ok ending, m.environment)
      | none =>
        match a.rest with
        | [] => (.ok (complain none .missingCommand), m.environment)
        | word :: args =>
          match Command.ofName? word with
          | some c => performCommand m c args
          | none => (.ok (unknownCommand word args), m.environment)

end PanelConfig.CommandLine
