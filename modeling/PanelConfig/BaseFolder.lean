import PanelConfig.Path
import PanelConfig.Settings

/-! The base folder of the panel: the one that holds the executable, unless that is a folder for
throwaway builds or unpacked archives. -/

namespace PanelConfig

/-- Where a base folder is taken from. -/
inductive FolderSource where
  | executable
  | workingFolder
  | fallback
  deriving DecidableEq, Repr

def FolderSource.text : FolderSource → String
  | .executable => "executable"
  | .workingFolder => "cwd"
  | .fallback => "fallback"

structure BaseFolder where
  path : String
  source : FolderSource
  deriving DecidableEq, Repr

namespace BaseFolder

/-- The parts of a path that mark a throwaway folder. -/
def ephemeralMarks : List String := ["/appdata/local/temp/", "/go-build"]

/-- `part` stands somewhere in `cs`. -/
def occursIn (part : List Char) : List Char → Bool
  | [] => part.isEmpty
  | c :: cs => part.isPrefixOf (c :: cs) || occursIn part cs

def withSlashes (path : String) : String :=
  String.ofList (path.toList.map fun c => if c = '\\' then '/' else c)

/-- The path lies in a throwaway folder. Slashes and backslashes count alike, and so do upper and
lower case. -/
def isEphemeral (path : String) : Bool :=
  ephemeralMarks.any fun mark => occursIn mark.toList (Text.lower (withSlashes path)).toList

def lastResort : BaseFolder := ⟨".", .fallback⟩

/-- The folder that holds an executable; a bare name stands in the current one. -/
def ofExecutable (path : String) : String := orElse (Path.folder path) "."

end BaseFolder

open BaseFolder in
/-- The base folder of the panel. In place of a throwaway folder comes the working folder, and where
the system cannot tell that, or the executable is not known, the folder of last resort. -/
def Machine.baseFolder (m : Machine) : Except Failure BaseFolder :=
  let path := m.executable.getD ""
  if path = "" then .ok lastResort
  else if isEphemeral (ofExecutable path) then
    match m.workingFolder.answer with
    | .ok folder => .ok ⟨folder, .workingFolder⟩
    | .error e => if e.isSystem then .ok lastResort else .error e
  else .ok ⟨ofExecutable path, .executable⟩

end PanelConfig
