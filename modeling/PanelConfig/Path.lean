/-! Paths as text. A slash separates the names of a path, a backslash is a character like any
other. The plain form drops what does not matter to where a path leads, except for `..`, which
cannot be dropped where there are links. -/

namespace PanelConfig.Path

def names (path : String) : List String := (path.toList.splitOn '/').map String.ofList

def isAbsolute (path : String) : Bool := path.toList.head? == some '/'

/-- The names of a path that lead somewhere: neither empty nor a single dot. -/
def components (path : String) : List String := (names path).filter fun n => n ≠ "" && n ≠ "."

/-- The slashes that open the plain form: none, two if the path opens with exactly two, or one. -/
def opening (path : String) : String :=
  match (path.toList.takeWhile (· = '/')).length with
  | 0 => ""
  | 2 => "//"
  | _ => "/"

/-- The plain form of a path: its components with one slash between each two. The path that leads
nowhere is a dot. -/
def plain (path : String) : String :=
  let text := opening path ++ String.intercalate "/" (components path)
  if text = "" then "." else text

/-- The characters up to and with the last slash. -/
def throughLastSlash (cs : List Char) : List Char := (cs.reverse.dropWhile (· ≠ '/')).reverse

/-- The path of the folder that holds what `path` names. Slashes at its end are dropped unless it
has nothing else. -/
def folder (path : String) : String :=
  let head := throughLastSlash path.toList
  let bare := (head.reverse.dropWhile (· = '/')).reverse
  String.ofList (if bare = [] then head else bare)

def lastName (path : String) : String :=
  String.ofList (path.toList.reverse.takeWhile (· ≠ '/')).reverse

end PanelConfig.Path
