import PanelConfig.Proofs.Disk.Faults
import PanelConfig.Proofs.Restart

/-! Migrations that the device breaks off. A front part of the database is left in its new place,
where every later migration takes it for the database. A migration that fails is therefore never
made up for by a later one; the old database stays as it was. -/

namespace PanelConfig.Machine

variable {m : Machine} {plan : FaultPlan} {platform : Option String} {environ : Option Environment}
  {base : BaseFolder}

/-- A copy that the device has broken off: a front part of the old database stands in the new
place. -/
structure BreaksOff (m : Machine) (platform : Option String) (environ : Option Environment)
    (base : BaseFolder) (s t : Location) (front : List UInt8) (r : Migration) : Prop where
  moves : m.Moves platform environ base s t
  isPrefix : front <+: m.disk.bytesAt s
  disk_eq : r.disk = m.disk.put t (.file front)

/-- A migration fails in one of two ways: a file cannot be opened, which does not hang on the
device, or the device breaks the copy off. -/
theorem failed_cases (h : (m.migrateUnder plan platform environ).answer = .ok .failed) :
    ∃ base, m.BelongsIn platform environ base ∧
      m.disk.hasEntry (m.newDatabase base) = .ok false ∧
      ((m.migrateUnder plan platform environ).disk = m.disk ∧
          m.migrate platform environ = m.migrateUnder plan platform environ ∨
        ∃ s t front,
          m.BreaksOff platform environ base s t front (m.migrateUnder plan platform environ)) := by
  have hm := m.migrates_migrateUnder plan platform environ
  generalize hr : m.migrateUnder plan platform environ = r at h hm
  cases hm with
  | offWindows | overridden | baseUnknown | newRefused | newExists | oldRefused | oldMissing =>
    cases h
  | @move base belongs hn ho =>
    refine ⟨base, belongs, hn, ?_⟩
    rcases Disk.copy_cases m.oldDatabase hn with ⟨e, he⟩ | ⟨s, t, hc⟩
    · left
      constructor
      · simp only [moveDatabase, he]
        split <;> rfl
      · rw [migrate, migrateUnder_eq_moveDatabase belongs hn ho]
        simp only [moveDatabase, he]
    · right
      obtain ⟨front, hfront, hdisk, -⟩ := hc.copyUnder_eq plan
      refine ⟨s, t, front, moves_of_copiesTo belongs hn hc, hfront, ?_⟩
      rw [← hdisk, moveDatabase]
      split
      · next he => rw [he]
      · next he =>
        split
        · rw [he]
        · rw [he]

theorem BreaksOff.read_new {s t : Location} {front : List UInt8} {r : Migration}
    (h : m.BreaksOff platform environ base s t front r) :
    r.disk.read (m.newDatabase base) = .ok front := by
  have hwrites := h.moves.copies.writes
  rw [h.disk_eq, Disk.read, Disk.openToRead_put_self h.moves.absent hwrites, Except.map,
    Disk.bytesAt_put (Disk.ne_nil_of_openToWrite hwrites)]

theorem BreaksOff.read_old {s t : Location} {front : List UInt8} {r : Migration}
    (h : m.BreaksOff platform environ base s t front r) :
    r.disk.read m.oldDatabase = m.disk.read m.oldDatabase := by
  have hc := h.moves.copies
  rw [h.disk_eq, Disk.read_put hc.vacant hc.reads, hc.read_source]

/-- A migration that fails is not made up for by a later one. It leaves the old database as it was.
If a file could not be opened, the disk is unchanged and the next migration fails as well. If the
files were opened, so that the migration would have copied on a device that does not fail, then a
front part of the database is left in the new place, and every later migration finds it there and
copies nothing. -/
theorem failed_migration_not_made_up
    (h : (m.migrateUnder plan platform environ).answer = .ok .failed) :
    let left := m.withDisk (m.migrateUnder plan platform environ).disk
    left.disk.read m.oldDatabase = m.disk.read m.oldDatabase ∧
    ∃ base, m.BelongsIn platform environ base ∧
      m.disk.hasEntry (m.newDatabase base) = .ok false ∧
      (left = m ∧ (left.migrate platform environ).answer = .ok .failed ∨
        (m.migrate platform environ).answer = .ok .copied ∧
        ∃ bytes front, m.disk.read m.oldDatabase = .ok bytes ∧ front <+: bytes ∧
          left.disk.read (m.newDatabase base) = .ok front ∧
          ∀ later, left.migrateUnder later platform environ = ⟨.ok .newExists, [], left.disk⟩) := by
  obtain ⟨base, belongs, hn, ⟨hdisk, hsame⟩ | ⟨s, t, front, hb⟩⟩ := failed_cases h
  · have hleft : m.withDisk (m.migrateUnder plan platform environ).disk = m := by
      rw [hdisk, withDisk_self]
    intro left
    have hleft : left = m := hleft
    rw [hleft]
    refine ⟨rfl, base, belongs, hn, .inl ⟨rfl, ?_⟩⟩
    rw [hsame, h]
  · refine ⟨hb.read_old, base, belongs, hn, .inr ⟨?_, ?_⟩⟩
    · rw [hb.moves.migrate_eq]
    · refine ⟨_, front, hb.moves.copies.read_source, hb.isPrefix, hb.read_new, ?_⟩
      intro later
      rw [hb.disk_eq]
      exact hb.moves.migrateUnder_put front later

/-- A device on which the first read fails. -/
def firstReadFails : FaultPlan := fun call =>
  if call = 0 then some ⟨0, "[Errno 5] Input/output error"⟩ else none

/-- On an outdated machine an empty file is left in the new place of the database, and the next
migration takes it for the database. -/
theorem broken_copy_taken_for_database :
    (outdated.migrate none none).answer = .ok .copied ∧
      (outdated.migrateUnder firstReadFails none none).answer = .ok .failed ∧
      let left := outdated.withDisk (outdated.migrateUnder firstReadFails none none).disk
      left.disk.read "bin/x-ui.db" = .ok [] ∧
        left.disk.read "old/x-ui.db" = .ok [83, 81, 76] ∧
        (left.migrate none none).answer = .ok .newExists := by
  decide +kernel

theorem failed_migration_not_made_up_outdated :
    (outdated.migrateUnder firstReadFails none none).answer = .ok .failed ∧
      ∀ later,
        (outdated.withDisk (outdated.migrateUnder firstReadFails none none).disk).migrateUnder
          later none none = ⟨.ok .newExists, [],
            (outdated.migrateUnder firstReadFails none none).disk⟩ := by
  have h : (outdated.migrateUnder firstReadFails none none).answer = .ok .failed := by
    decide +kernel
  obtain ⟨-, base, -, -, ⟨hleft, -⟩ | ⟨-, bytes, front, -, -, -, hlater⟩⟩ :=
    failed_migration_not_made_up h
  · have hread := congrArg (fun x => x.disk.read "bin/x-ui.db") hleft
    exact absurd hread (by decide +kernel)
  · exact ⟨h, hlater⟩

end PanelConfig.Machine
