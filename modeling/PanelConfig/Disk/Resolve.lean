import PanelConfig.Disk
import PanelConfig.Failure
import PanelConfig.Path

/-! Where a path leads. A path is walked name by name from the root or the working folder; links
are followed, also the last one, and no more than forty of them. The walk ends at an entry, or at a
vacant place in a folder that is there, or is refused. -/

namespace PanelConfig

/-- What a path is resolved for. -/
inductive Purpose where
  /-- An entry is looked for. -/
  | look
  /-- A file is to be written, and made if its place is vacant. -/
  | write
  deriving DecidableEq

/-- Where a path leads. -/
inductive Spot where
  | folder (l : Location)
  | file (l : Location)
  /-- A place in a folder at which nothing stands. -/
  | vacant (l : Location)
  deriving DecidableEq, Repr

namespace Disk

def maxNameBytes : Nat := 255

/-- The number of bytes from which on a path is too long. -/
def pathBytesLimit : Nat := 4096

def maxLinks : Nat := 40

/-- Walks on from the folder `here` by the names that are left; `follow` goes on from a link. A
slash after the last name leaves empty names: what is looked for is then a folder, and nothing can
be written. -/
def walkWith (d : Disk) (purpose : Purpose)
    (follow : Location → List String → Except Refusal Spot) :
    Location → List String → Except Refusal Spot
  | here, [] => .ok (.folder here)
  | here, name :: rest =>
    if name = "" ∨ name = "." then d.walkWith purpose follow here rest
    else if name = ".." then d.walkWith purpose follow here.dropLast rest
    else if purpose = .write ∧ rest ≠ [] ∧ rest.all (· = "") then .error .isFolder
    else if maxNameBytes < name.utf8ByteSize then .error .nameTooLong
    else match d.find? (here ++ [name]) with
      | some .folder => d.walkWith purpose follow (here ++ [name]) rest
      | some (.link target) =>
        follow (if Path.isAbsolute target then [] else here) (Path.names target ++ rest)
      | some (.file _) => if rest = [] then .ok (.file (here ++ [name])) else .error .notFolder
      | none => if rest = [] then .ok (.vacant (here ++ [name])) else .error .missing

/-- Walks on from a folder by the names that are left, through no more than `links` links. -/
def walk (d : Disk) (purpose : Purpose) :
    (links : Nat) → Location → List String → Except Refusal Spot
  | 0 => d.walkWith purpose fun _ _ => .error .tooManyLinks
  | links + 1 => d.walkWith purpose (d.walk purpose links)

def resolve (d : Disk) (purpose : Purpose) (path : String) : Except Refusal Spot :=
  if pathBytesLimit ≤ path.utf8ByteSize then .error .nameTooLong
  else if path = "" then .error .missing
  else d.walk purpose maxLinks (if Path.isAbsolute path then [] else d.workingFolder)
    (Path.names path)

end Disk

end PanelConfig
