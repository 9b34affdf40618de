import PanelConfig.Text.Quoted

/-! What can go wrong, by cause, and the wording of each cause. -/

namespace PanelConfig

/-- Why the disk refuses a path. -/
inductive Refusal where
  /-- A name on the way, or the last one, is not there. -/
  | missing
  | notFolder
  /-- A file is asked for and the path leads to a folder. -/
  | isFolder
  | nameTooLong
  | tooManyLinks
  deriving DecidableEq, Repr

def Refusal.number : Refusal → Nat
  | .missing => 2
  | .notFolder => 20
  | .isFolder => 21
  | .nameTooLong => 36
  | .tooManyLinks => 40

def Refusal.wording : Refusal → String
  | .missing => "No such file or directory"
  | .notFolder => "Not a directory"
  | .isFolder => "Is a directory"
  | .nameTooLong => "File name too long"
  | .tooManyLinks => "Too many levels of symbolic links"

/-- How the system fails to tell the working folder. -/
inductive FolderFault where
  /-- The system gives an error of no particular kind. -/
  | system
  | gone
  | denied
  /-- The query itself breaks. -/
  | broken
  /-- The query is given something it cannot use. -/
  | invalid
  deriving DecidableEq, Repr

/-- The fault comes from the system and not from the query. -/
def FolderFault.isSystem : FolderFault → Bool
  | .system | .gone | .denied => true
  | .broken | .invalid => false

/-- The causes for which an operation fails. -/
inductive Failure where
  /-- MySQL is chosen and one of its three required settings is empty. -/
  | incompleteDatabase
  | exit (code : Nat)
  /-- A text with a null character is handed to the system. -/
  | nullCharacter
  | refused (why : Refusal) (path : String)
  /-- The device gives an error while bytes are copied. -/
  | device (message : String)
  /-- The working folder cannot be told. -/
  | workingFolder (fault : FolderFault) (message : String)
  deriving DecidableEq, Repr

/-- The failure comes from the system: such failures are contained where a file is copied. -/
def Failure.isSystem : Failure → Bool
  | .refused .. | .device _ => true
  | .workingFolder fault _ => fault.isSystem
  | .incompleteDatabase | .exit _ | .nullCharacter => false

def Failure.message : Failure → String
  | .incompleteDatabase =>
    "missing required MySQL configuration: host, database, and username are required"
  | .exit code => toString code
  | .nullCharacter => "embedded null byte"
  | .refused why path => s!"[Errno {why.number}] {why.wording}: {Text.quoted path}"
  | .device message => message
  | .workingFolder _ message => message

end PanelConfig
