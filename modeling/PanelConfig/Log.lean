/-! Log records and the threshold that decides which of them are let through. -/

namespace PanelConfig

/-- How grave a record is. -/
inductive Severity where
  | debug
  | info
  | warning
  | error
  deriving DecidableEq, Repr

/-- The number of a severity; a graver one has the greater number. -/
def Severity.rank : Severity → Nat
  | .debug => 10
  | .info => 20
  | .warning => 30
  | .error => 40

def Severity.name : Severity → String
  | .debug => "DEBUG"
  | .info => "INFO"
  | .warning => "WARNING"
  | .error => "ERROR"

/-- The part of the panel that a record comes from. -/
inductive Origin where
  | settings
  | levels
  | service
  deriving DecidableEq, Repr

def Origin.name : Origin → String
  | .settings => "xui.config"
  | .levels => "xui.logging_setup"
  | .service => "xui.app"

/-- A line of the log. -/
structure Record where
  severity : Severity
  origin : Origin
  message : String
  deriving DecidableEq, Repr

/-- A threshold lets through the records that are at least as grave. -/
def Severity.letsThrough (threshold : Severity) (r : Record) : Bool :=
  decide (threshold.rank ≤ r.severity.rank)

def Severity.visible (threshold : Severity) (records : List Record) : List Record :=
  records.filter threshold.letsThrough

theorem Severity.visible_of_le {t : Severity} {r : Record} (h : t.rank ≤ r.severity.rank) :
    t.visible [r] = [r] := by
  simp [visible, letsThrough, h]

theorem Severity.visible_of_lt {t : Severity} {r : Record} (h : r.severity.rank < t.rank) :
    t.visible [r] = [] := by
  simp [visible, letsThrough, h]

/-- The layout of a line of the log: its time, the name of its origin, the name of its severity and
its message. -/
def lineLayout : String := "%(asctime)s - %(name)s - %(levelname)s - %(message)s"

end PanelConfig
