import PanelConfig.Disk.Resolve

/-! Asking whether a path leads to an entry, and opening files to read and to write. -/

namespace PanelConfig.Disk

/-- The path holds a null character, which the system takes for its end. -/
def hasNull (path : String) : Bool := path.toList.contains '\x00'

/-- The path leads to an entry. A name that is too long is a failure; every other refusal means
that nothing is there. -/
def hasEntry (d : Disk) (path : String) : Except Failure Bool :=
  if hasNull path then .ok false
  else match d.resolve .look path with
    | .ok (.vacant _) => .ok false
    | .ok _ => .ok true
    | .error .nameTooLong => .error (.refused .nameTooLong path)
    | .error _ => .ok false

/-- The location of the file that is read by a path. -/
def openToRead (d : Disk) (path : String) : Except Failure Location :=
  if hasNull path then .error .nullCharacter
  else match d.resolve .look path with
    | .ok (.file l) => .ok l
    | .ok (.folder _) => .error (.refused .isFolder path)
    | .ok (.vacant _) => .error (.refused .missing path)
    | .error why => .error (.refused why path)

/-- The location of the file that is written by a path; the file may still have to be made. -/
def openToWrite (d : Disk) (path : String) : Except Failure Location :=
  if hasNull path then .error .nullCharacter
  else match d.resolve .write path with
    | .ok (.file l) | .ok (.vacant l) => .ok l
    | .ok (.folder _) => .error (.refused .isFolder path)
    | .error why => .error (.refused why path)

end PanelConfig.Disk
