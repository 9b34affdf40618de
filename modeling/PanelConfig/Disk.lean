import PanelConfig.Lookup

/-! A disk as the list of its entries. An entry is a file with its bytes, a folder, or a link to a
path, and stands at a location, the names that lead to it from the root. `Disk.find?` is the view
of a disk through which all else is stated. -/

namespace PanelConfig

/-- The names that lead from the root to an entry. -/
abbrev Location := List String

/-- What stands at a location. -/
inductive Entry where
  | file (bytes : List UInt8)
  | folder
  | link (target : String)
  deriving DecidableEq, Repr

/-- The entries of a disk, and the folder at which paths without a leading slash start. -/
structure Disk where
  entries : List (Location × Entry)
  workingFolder : Location
  deriving Repr

namespace Disk

/-- The entry at a location. The root is always a folder. -/
def find? (d : Disk) (l : Location) : Option Entry :=
  if l = [] then some .folder else d.entries.lookup l

/-- The disk with `e` at `l` in place of what stood there. -/
def put (d : Disk) (l : Location) (e : Entry) : Disk :=
  { d with entries := (l, e) :: d.entries.filter fun x => x.1 ≠ l }

/-- The disk without `l` and all that stands below it. -/
def remove (d : Disk) (l : Location) : Disk :=
  { d with entries := d.entries.filter fun x => !l.isPrefixOf x.1 }

/-- The bytes of the file at a location; none if no file stands there. -/
def bytesAt (d : Disk) (l : Location) : List UInt8 :=
  match d.find? l with
  | some (.file bytes) => bytes
  | _ => []

theorem find?_put {l : Location} (h : l ≠ []) (d : Disk) (e : Entry) :
    (d.put l e).find? l = some e := by
  rw [find?, if_neg h, put, List.lookup_cons_self]

theorem find?_put_ne {l k : Location} (h : l ≠ k) (d : Disk) (e : Entry) :
    (d.put k e).find? l = d.find? l := by
  have hk : (l == k) = false := by simp [h]
  simp only [find?, put, List.lookup_cons, hk, lookup_filter_ne h]

theorem bytesAt_put {l : Location} (h : l ≠ []) (d : Disk) (bytes : List UInt8) :
    (d.put l (.file bytes)).bytesAt l = bytes := by
  simp [bytesAt, find?_put h]

/-- The path of a location below the working folder. -/
def pathBelow? (d : Disk) (l : Location) : Option String :=
  if d.workingFolder.isPrefixOf l && d.workingFolder ≠ l then
    some (String.intercalate "/" (l.drop d.workingFolder.length))
  else none

/-- The entries below the working folder with their paths, in the order of the paths. -/
def listing (d : Disk) : List (String × Entry) :=
  (d.entries.filterMap fun x => (d.pathBelow? x.1).map fun p => (p, x.2)).mergeSort
    fun x y => decide (x.1 ≤ y.1)

end Disk

end PanelConfig
