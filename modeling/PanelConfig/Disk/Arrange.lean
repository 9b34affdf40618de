import PanelConfig.Disk.Resolve

/-! Arranging a disk from outside: files, folders and links are placed where a path says, with the
folders on the way, and entries are taken away. -/

namespace PanelConfig

inductive DiskItem where
  | file (path : String) (bytes : List UInt8)
  | folder (path : String)
  | link (path : String) (target : String)
  deriving Repr

namespace Disk

/-- The location of the last name of a path, which is not followed if it is a link. -/
def placeOf? (d : Disk) (path : String) : Option Location :=
  let folder := Path.folder path
  match d.resolve .look (if folder = "" then "." else folder) with
  | .ok (.folder l) => some (l ++ [Path.lastName path])
  | _ => none

/-- Makes a folder at a path if nothing stands there. A link that leads nowhere is not followed. -/
def makeFolder (d : Disk) (path : String) : Disk :=
  match d.resolve .write path with
  | .ok (.vacant l) => if d.placeOf? path = some l then d.put l .folder else d
  | _ => d

/-- Makes the folders on the way that the names lead; `path` is the way so far. -/
def makeFolders (d : Disk) (path : String) : List String → Disk
  | [] => d
  | name :: names =>
    if name = "" ∨ name = "." then d.makeFolders path names
    else (d.makeFolder (path ++ name)).makeFolders (path ++ name ++ "/") names

/-- Makes the folder at a path and all folders on the way. -/
def makeFoldersTo (d : Disk) (path : String) : Disk :=
  d.makeFolders (if Path.isAbsolute path then "/" else "") (Path.names path)

/-- Places an item, with the folders on the way to it. -/
def place (d : Disk) : DiskItem → Disk
  | .folder path => d.makeFoldersTo path
  | .file path bytes =>
    let d := d.makeFoldersTo (Path.folder path)
    match d.resolve .write path with
    | .ok (.file l) | .ok (.vacant l) => d.put l (.file bytes)
    | _ => d
  | .link path target =>
    let d := d.makeFoldersTo (Path.folder path)
    match d.placeOf? path with
    | some l => d.put l (.link target)
    | none => d

/-- Takes away what a path names, with all that stands below it. Slashes at the end of the path make
no difference. -/
def takeAway (d : Disk) (path : String) : Disk :=
  match d.placeOf? (Path.plain path) with
  | some l => d.remove l
  | none => d

def fresh : Disk where
  entries := [(["tmp"], .folder), (["tmp", "panel"], .folder)]
  workingFolder := ["tmp", "panel"]

end Disk

end PanelConfig
