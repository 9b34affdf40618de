import PanelConfig.Proofs.Disk.Reach
import PanelConfig.Proofs.Migration
import PanelConfig.Proofs.Session

/-! A copy is exact, or nothing has changed. Where its two files can be opened, the one that is
written holds the bytes of the other afterwards, or none if they are one file, which is emptied
before it is read, and all else on the disk is as it was. Where one of them cannot be opened, the
failure is that of opening it, and the disk is the same. -/

namespace PanelConfig

namespace Disk

/-- What is written by the path is written at `t`: the system takes the path, and its names lead to
the file there, or to that place while it is vacant. -/
structure WritesAt (d : Disk) (path : String) (t : Location) : Prop where
  noNull : hasNull path = false
  short : path.utf8ByteSize < pathBytesLimit
  notEmpty : path ≠ ""
  leads : d.Leads .write maxLinks (d.start path) (Path.names path) (.file t) ∨
    d.Leads .write maxLinks (d.start path) (Path.names path) (.vacant t)

/-- `after` is `before` but for the file at `t`, which holds `bytes`: before it was another file, or
not there. -/
structure DiffersAt (before after : Disk) (t : Location) (bytes : List UInt8) : Prop where
  holds : after.find? t = some (.file bytes)
  replaces : before.find? t = none ∨ ∃ old, before.find? t = some (.file old)
  others : ∀ l, l ≠ t → after.find? l = before.find? l
  workingFolder : after.workingFolder = before.workingFolder

variable {d : Disk} {path source target : String} {s t : Location} {e : Failure}

theorem openToWrite_eq_ok_iff_writesAt : d.openToWrite path = .ok t ↔ d.WritesAt path t := by
  rw [openToWrite_eq_ok_iff, resolve_eq_ok_iff, resolve_eq_ok_iff]
  constructor
  · rintro ⟨hnull, ⟨hshort, hempty, hleads⟩ | ⟨hshort, hempty, hleads⟩⟩
    · exact ⟨hnull, hshort, hempty, .inl hleads⟩
    · exact ⟨hnull, hshort, hempty, .inr hleads⟩
  · rintro ⟨hnull, hshort, hempty, hleads | hleads⟩
    · exact ⟨hnull, .inl ⟨hshort, hempty, hleads⟩⟩
    · exact ⟨hnull, .inr ⟨hshort, hempty, hleads⟩⟩

theorem WritesAt.replaces (h : d.WritesAt path t) :
    d.find? t = none ∨ ∃ old, d.find? t = some (.file old) := by
  rcases h.leads with hleads | hleads
  · exact .inr hleads.fits
  · exact .inl hleads.fits

theorem WritesAt.mayHoldFile (h : d.WritesAt path t) : d.MayHoldFile t := by
  rcases h.replaces with hvacant | ⟨old, hfile⟩
  · exact mayHoldFile_of_vacant hvacant
  · exact mayHoldFile_of_file hfile

/-- A file that is written by a path is found by it. -/
theorem WritesAt.reaches_put (h : d.WritesAt path t) (bytes : List UInt8) :
    (d.put t (.file bytes)).Reaches path (.file t) := by
  refine ⟨h.noNull, h.short, h.notEmpty, ?_⟩
  rcases h.leads with hleads | hleads
  · exact hleads.look.put h.mayHoldFile bytes
  · have hput := hleads.look.put h.mayHoldFile bytes
    rwa [Spot.afterMaking, if_pos rfl] at hput

theorem WritesAt.differsAt_put (h : d.WritesAt path t) (bytes : List UInt8) :
    d.DiffersAt (d.put t (.file bytes)) t bytes := by
  have ht : t ≠ [] := ne_nil_of_openToWrite (openToWrite_eq_ok_iff_writesAt.mpr h)
  exact ⟨find?_put ht d _, h.replaces, fun l hl => find?_put_ne hl d _, rfl⟩

/-- A copy of which the source cannot be opened fails for that, whatever the target is. -/
theorem copy_of_openToRead (h : d.openToRead source = .error e) (target : String) :
    d.copy source target = (.error e, d) := by
  simp only [copy, copyUnder, h]

theorem copy_of_openToWrite (hs : d.openToRead source = .ok s)
    (ht : d.openToWrite target = .error e) : d.copy source target = (.error e, d) := by
  simp only [copy, copyUnder, hs, ht]

/-- A copy of which both files can be opened. -/
theorem copy_of_reaches {bytes : List UInt8} (hs : d.Reaches source (.file s))
    (hbytes : d.find? s = some (.file bytes)) (ht : d.WritesAt target t) :
    d.copy source target = (.ok (), d.put t (.file (if s = t then [] else bytes))) := by
  have hread := openToRead_eq_ok_iff_reaches.mpr hs
  have hwrite := openToWrite_eq_ok_iff_writesAt.mpr ht
  rw [copy_eq hread hwrite, bytesAt_of_find? hbytes]

theorem copy_eq_ok_iff :
    (d.copy source target).1 = .ok () ↔
      (∃ s, d.Reaches source (.file s)) ∧ ∃ t, d.WritesAt target t := by
  simp only [← openToRead_eq_ok_iff_reaches, ← openToWrite_eq_ok_iff_writesAt]
  cases hs : d.openToRead source with
  | error e => simp [copy_of_openToRead hs]
  | ok s =>
    cases ht : d.openToWrite target with
    | error e => simp [copy_of_openToWrite hs ht]
    | ok t => simp [copy_eq hs ht]

/-- A copy that fails has not opened one of its files, and leaves the disk as it is. -/
theorem unchanged_of_copy (h : (d.copy source target).1 = .error e) :
    (d.copy source target).2 = d ∧ (Unopened source e ∨ Unopened target e) := by
  cases hs : d.openToRead source with
  | error failure =>
    rw [copy_of_openToRead hs] at h ⊢
    cases h
    exact ⟨rfl, .inl (unopened_of_openToRead hs)⟩
  | ok s =>
    cases ht : d.openToWrite target with
    | error failure =>
      rw [copy_of_openToWrite hs ht] at h ⊢
      cases h
      exact ⟨rfl, .inr (unopened_of_openToWrite ht)⟩
    | ok t =>
      rw [copy_eq hs ht] at h
      cases h

end Disk

namespace Machine

theorem perform_copyFile (m : Machine) (source target : String) :
    (Operation.copyFile source target).perform m =
      ⟨(m.disk.copy (Path.plain source) (Path.plain target)).1.map fun _ => .done, [],
        { m with disk := (m.disk.copy (Path.plain source) (Path.plain target)).2 }⟩ := by
  simp only [Operation.perform, Operation.emit, Severity.visible, List.filter_nil]

/-- A copy is exact, or nothing has changed. It succeeds where the source leads to a file and the
target can be written, and then the file to which the target leads, which may have been made for it,
holds the bytes of the source, or none if the two are one file; nothing else on the disk is another.
A copy that fails leaves the machine as it is. If the source leads to no file, the failure is that
of opening it, whatever the target is. -/
theorem copy_exact_or_unchanged (m : Machine) (source target : String) :
    let read := Path.plain source
    let written := Path.plain target
    let r := (Operation.copyFile source target).perform m
    (r.answer = .ok .done ↔
      (∃ s, m.disk.Reaches read (.file s)) ∧ ∃ t, m.disk.WritesAt written t) ∧
    (∀ s t bytes, m.disk.Reaches read (.file s) → m.disk.find? s = some (.file bytes) →
      m.disk.WritesAt written t → r.machine.disk.Reaches written (.file t) ∧
        m.disk.DiffersAt r.machine.disk t (if s = t then [] else bytes)) ∧
    (∀ e, r.answer = .error e →
      r.machine = m ∧ (Disk.Unopened read e ∨ Disk.Unopened written e)) ∧
    ((¬∃ s, m.disk.Reaches read (.file s)) →
      ∃ e, m.disk.openToRead read = .error e ∧ Disk.Unopened read e ∧ r.answer = .error e) ∧
    r.records = [] ∧ r.machine = { m with disk := r.machine.disk } := by
  intro read written r
  have hr : r = ⟨(m.disk.copy read written).1.map fun _ => .done, [],
      { m with disk := (m.disk.copy read written).2 }⟩ := perform_copyFile m source target
  rw [hr]
  refine ⟨?_, fun s t bytes hs hbytes ht => ?_, fun e he => ?_, fun hnone => ?_, rfl, rfl⟩
  · rw [← Disk.copy_eq_ok_iff]
    cases (m.disk.copy read written).1 with
    | error e => simp [Except.map]
    | ok u => simp [Except.map]
  · rw [Disk.copy_of_reaches hs hbytes ht]
    exact ⟨ht.reaches_put _, ht.differsAt_put _⟩
  · obtain ⟨hsame, hcause⟩ := Disk.unchanged_of_copy (map_eq_error_iff.mp he)
    exact ⟨by rw [hsame], hcause⟩
  · cases hs : m.disk.openToRead read with
    | error e =>
      refine ⟨e, rfl, Disk.unopened_of_openToRead hs, ?_⟩
      rw [Disk.copy_of_openToRead hs]
      rfl
    | ok s => exact absurd ⟨s, Disk.openToRead_eq_ok_iff_reaches.mp hs⟩ hnone

/-- On an outdated machine a copy follows the link that leads nowhere yet, one to the same file by
another path empties it, and one from a path that leads nowhere fails. -/
theorem copy_exact_or_unchanged_outdated :
    outdated.disk.Reaches "old/x-ui.db" (.file ["old", "x-ui.db"]) ∧
      outdated.disk.WritesAt "bin/x-ui.db" ["data.db"] ∧
      outdated.disk.WritesAt "bin/../old/x-ui.db" ["old", "x-ui.db"] ∧
      ((Operation.copyFile "old/x-ui.db" "bin//x-ui.db").perform outdated).answer = .ok .done ∧
      ((Operation.copyFile "old/x-ui.db" "bin//x-ui.db").perform outdated).machine.disk.find?
        ["data.db"] = some (.file [83, 81, 76]) ∧
      ((Operation.copyFile "old/x-ui.db" "bin/../old/x-ui.db").perform outdated).machine.disk.find?
        ["old", "x-ui.db"] = some (.file []) ∧
      ∃ e, ((Operation.copyFile "bin/x-ui.db" "old/x-ui.db").perform outdated).answer = .error e ∧
        ((Operation.copyFile "bin/x-ui.db" "old/x-ui.db").perform outdated).machine = outdated := by
  have hold : Path.plain "old/x-ui.db" = "old/x-ui.db" := by decide +kernel
  have hnew : Path.plain "bin//x-ui.db" = "bin/x-ui.db" := by decide +kernel
  have hround : Path.plain "bin/../old/x-ui.db" = "bin/../old/x-ui.db" := by decide +kernel
  have hlink : Path.plain "bin/x-ui.db" = "bin/x-ui.db" := by decide +kernel
  have hs : outdated.disk.Reaches "old/x-ui.db" (.file ["old", "x-ui.db"]) :=
    Disk.openToRead_eq_ok_iff_reaches.mp (by decide +kernel)
  have ht : outdated.disk.WritesAt "bin/x-ui.db" ["data.db"] :=
    Disk.openToWrite_eq_ok_iff_writesAt.mp (by decide +kernel)
  have hself : outdated.disk.WritesAt "bin/../old/x-ui.db" ["old", "x-ui.db"] :=
    Disk.openToWrite_eq_ok_iff_writesAt.mp (by decide +kernel)
  have hnone : ¬∃ s, outdated.disk.Reaches "bin/x-ui.db" (.file s) := by
    rintro ⟨s, hreach⟩
    have hread := Disk.openToRead_eq_ok_iff_reaches.mpr hreach
    have herror : outdated.disk.openToRead "bin/x-ui.db" =
        .error (.refused .missing "bin/x-ui.db") := by decide +kernel
    rw [herror] at hread
    cases hread
  have hcopy := copy_exact_or_unchanged outdated "old/x-ui.db" "bin//x-ui.db"
  have hempty := copy_exact_or_unchanged outdated "old/x-ui.db" "bin/../old/x-ui.db"
  have hfail := copy_exact_or_unchanged outdated "bin/x-ui.db" "old/x-ui.db"
  simp only [hold, hnew, hround, hlink] at hcopy hempty hfail
  obtain ⟨hdone, hexact, -⟩ := hcopy
  obtain ⟨-, hemptied, -⟩ := hempty
  obtain ⟨-, -, hsame, hmissing, -⟩ := hfail
  obtain ⟨e, -, -, he⟩ := hmissing hnone
  refine ⟨hs, ht, hself, hdone.mpr ⟨⟨_, hs⟩, _, ht⟩, ?_, ?_, e, he, (hsame e he).1⟩
  · exact (hexact _ _ [83, 81, 76] hs rfl ht).2.holds
  · exact (hemptied _ _ [83, 81, 76] hs rfl hself).2.holds

end Machine

end PanelConfig
