import PanelConfig.Log
import PanelConfig.Text.LowerCase
import PanelConfig.Text.Quoted

/-! The log levels of the panel, by name, and what a chosen level does to the log. -/

namespace PanelConfig

inductive Level where
  | debug
  | info
  | notice
  | warning
  | error
  deriving DecidableEq, Repr

namespace Level

/-- All levels, from the most talkative on. -/
def all : List Level := [.debug, .info, .notice, .warning, .error]

def text : Level → String
  | .debug => "debug"
  | .info => "info"
  | .notice => "notice"
  | .warning => "warning"
  | .error => "error"

/-- The threshold that a level stands for. A notice counts as information. -/
def severity : Level → Severity
  | .debug => .debug
  | .info => .info
  | .notice => .info
  | .warning => .warning
  | .error => .error

/-- The level that a text names, in any letter case. -/
def ofText? (s : String) : Option Level := all.find? fun l => l.text = Text.lower s

end Level

/-- A level as it is chosen: one that the panel knows, or a text that may name one. -/
inductive LevelChoice where
  | known (l : Level)
  | written (s : String)
  deriving DecidableEq, Repr

namespace LevelChoice

def text : LevelChoice → String
  | .known l => l.text
  | .written s => s

/-- The threshold of a choice, unless its text names no level. -/
def severity? : LevelChoice → Option Severity
  | .known l => some l.severity
  | .written s => (Level.ofText? s).map Level.severity

/-- The threshold that a choice puts into effect. -/
def applied (c : LevelChoice) : Severity := c.severity?.getD .info

/-- What is logged when a choice is put into effect: a warning if its text names no level. -/
def records (c : LevelChoice) : List Record :=
  match c.severity? with
  | some _ => []
  | none => [⟨.warning, .levels, s!"Unknown log level {Text.quoted c.text}, using info"⟩]

end LevelChoice

end PanelConfig
