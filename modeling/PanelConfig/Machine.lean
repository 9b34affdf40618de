import PanelConfig.Disk
import PanelConfig.Environment
import PanelConfig.Log

/-! The machine that the panel runs on: all that an operation may read or change. -/

namespace PanelConfig

/-- What the system answers when it is asked for the working folder. -/
inductive FolderQuery where
  | found (path : String)
  | failed (fault : FolderFault) (message : String)
  deriving Repr

/-- The answer, or the failure that it stands for. -/
def FolderQuery.answer : FolderQuery → Except Failure String
  | .found path => .ok path
  | .failed fault message => .error (.workingFolder fault message)

structure Machine where
  environment : Environment
  platform : String
  /-- The path of the running executable, if it is known. -/
  executable : Option String
  /-- The answer to the question for the working folder. -/
  workingFolder : FolderQuery
  /-- The name of the panel as it is shipped, blanks included. -/
  shippedName : String
  /-- The version of the panel as it is shipped, blanks included. -/
  shippedVersion : String
  /-- The folder in which older releases kept the database. -/
  legacyFolder : String
  disk : Disk
  threshold : Severity
  deriving Repr

end PanelConfig
