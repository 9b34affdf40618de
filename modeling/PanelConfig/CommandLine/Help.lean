import PanelConfig.CommandLine.Arguments

/-! The commands with their options, and the help on them. -/

namespace PanelConfig.CommandLine

inductive Command where
  | run
  | show
  deriving DecidableEq, Repr

/-- The word with which the command line starts. -/
def programName : String := "x-ui"

def helpOption : OptionSpec := ⟨"--help", none, "Show this message and exit."⟩

def versionOption : OptionSpec := ⟨"--version", none, "Show the version and exit."⟩

/-- The options before the command. -/
def panelOptions : List OptionSpec := [versionOption, helpOption]

namespace Command

def all : List Command := [.run, .show]

def name : Command → String
  | .run => "run"
  | .show => "show"

def ofName? (word : String) : Option Command := all.find? fun c => c.name = word

/-- What a command does, in a sentence. -/
def summary : Command → String
  | .run => "Run the server."
  | .show => "Show the resolved configuration."

def options : Command → List OptionSpec
  | .run => [
    ⟨"--host", some "TEXT", "Host to bind to"⟩,
    ⟨"--port", some "INTEGER", "Port to listen on"⟩,
    ⟨"--reload", none, "Enable auto-reload for development"⟩,
    ⟨"--debug", none, "Force debug logging (sets XUI_DEBUG)"⟩,
    ⟨"--log-level", some "TEXT", "Log level (sets XUI_LOG_LEVEL)"⟩,
    ⟨"--db-folder", some "TEXT", "Database folder (sets XUI_DB_FOLDER)"⟩,
    helpOption]
  | .show => [⟨"--json", none, "Print as JSON"⟩, helpOption]

end Command

/-- The lines of a table of two columns, two spaces apart, each line indented by two. -/
def table (rows : List (String × String)) : String :=
  let width := (rows.map fun r => r.1.length).foldl max 0
  String.join (rows.map fun r =>
    "  " ++ r.1 ++ String.ofList (List.replicate (width + 2 - r.1.length) ' ') ++ r.2 ++ "\n")

def OptionSpec.row (o : OptionSpec) : String × String :=
  (match o.value? with
    | some value => o.name ++ " " ++ value
    | none => o.name, o.help)

/-- The part of the command line that a message is about: all of it, or one command. -/
abbrev Scope := Option Command

namespace Scope

def words (scope : Scope) : String :=
  match scope with
  | none => programName
  | some c => programName ++ " " ++ c.name

/-- The line on how the scope is used. -/
def usage (scope : Scope) : String :=
  match scope with
  | none => s!"Usage: {words scope} [OPTIONS] COMMAND [ARGS]...\n"
  | some _ => s!"Usage: {words scope} [OPTIONS]\n"

def help (scope : Scope) : String :=
  match scope with
  | none =>
    usage scope ++ "\n  x-ui - panel runtime configuration.\n\nOptions:\n"
      ++ table (panelOptions.map OptionSpec.row) ++ "\nCommands:\n"
      ++ table (Command.all.map fun c => (c.name, c.summary))
  | some c =>
    usage scope ++ s!"\n  {c.summary}\n\nOptions:\n" ++ table (c.options.map OptionSpec.row)

def complaint (scope : Scope) (fault : UsageFault) : String :=
  (if fault.showsUsage then usage scope ++ s!"Try '{words scope} --help' for help.\n\n" else "")
    ++ s!"Error: {fault.message}\n"

end Scope

end PanelConfig.CommandLine
