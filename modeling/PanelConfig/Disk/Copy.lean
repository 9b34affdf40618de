import PanelConfig.Disk.Access

/-! Copying a file, block by block. The device may fail at any of its calls: each block is read and
written, the end of the file is one more read, and at the end the bytes are flushed and synced. A
copy that fails leaves what it has written. -/

namespace PanelConfig

structure DeviceFault where
  /-- The bytes of the block that are on the disk nevertheless, if the call writes one. -/
  kept : Nat
  message : String
  deriving Repr

/-- Which calls of the device fail, by their number from the start of the copy. -/
abbrev FaultPlan := Nat → Option DeviceFault

def FaultPlan.none : FaultPlan := fun _ => .none

namespace Disk

def blockBytes : Nat := 1048576

/-- What a copy has written, and the fault that ended it. -/
structure Transfer where
  written : List UInt8
  fault : Option DeviceFault

/-- Copies the bytes that are left, with `call` the number of the next call of the device and
`written` the bytes that are on the disk already. -/
def transfer (plan : FaultPlan) (call : Nat) (written rest : List UInt8) : Transfer :=
  match plan call with
  | some fault => ⟨written, some fault⟩
  | none =>
    if rest.isEmpty then
      match plan (call + 1) with
      | some fault => ⟨written, some fault⟩
      | none => ⟨written, plan (call + 2)⟩
    else
      match plan (call + 1) with
      | some fault => ⟨written ++ (rest.take blockBytes).take fault.kept, some fault⟩
      | none => transfer plan (call + 2) (written ++ rest.take blockBytes) (rest.drop blockBytes)
termination_by rest.length
decreasing_by
  have h : 0 < rest.length := by cases rest with
    | nil => contradiction
    | cons _ _ => exact Nat.zero_lt_succ _
  rw [List.length_drop, blockBytes]
  omega

/-- Copies the file at one path to another, which is made or emptied first. -/
def copyUnder (plan : FaultPlan) (d : Disk) (source target : String) : Except Failure Unit × Disk :=
  match d.openToRead source with
  | .error e => (.error e, d)
  | .ok s =>
    match d.openToWrite target with
    | .error e => (.error e, d)
    | .ok t =>
      let emptied := d.put t (.file [])
      let result := transfer plan 0 [] (emptied.bytesAt s)
      (match result.fault with
        | some fault => .error (.device fault.message)
        | none => .ok (),
       d.put t (.file result.written))

/-- Copies the file at one path to another on a device that does not fail. -/
def copy (d : Disk) (source target : String) : Except Failure Unit × Disk :=
  d.copyUnder FaultPlan.none source target

end Disk

end PanelConfig
