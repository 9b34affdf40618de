import Mathlib.Data.List.Basic
import PanelConfig.Migration
import PanelConfig.Proofs.Disk.Copying

/-! The ways in which a migration can go, one rule for each, and what follows for the disk: only a
migration that ends with a copy changes it, and then by one file with the bytes of the old
database. -/

namespace PanelConfig

/-- The database file of a platform belongs into a base folder. -/
structure Machine.BelongsIn (m : Machine) (platform : Option String) (environ : Option Environment)
    (base : BaseFolder) : Prop where
  windows : m.isWindows platform = true
  notSet : (environ.getD m.environment).value .databaseFolder = ""
  base_eq : m.baseFolder = .ok base

/-- The ways in which a migration can go. -/
inductive Machine.Migrates (m : Machine) (plan : FaultPlan) (platform : Option String)
    (environ : Option Environment) : Migration → Prop
  | offWindows : m.isWindows platform = false →
      Migrates m plan platform environ ⟨.ok .skippedPlatform, [], m.disk⟩
  | overridden : m.isWindows platform = true →
      (environ.getD m.environment).value .databaseFolder ≠ "" →
      Migrates m plan platform environ ⟨.ok .skippedOverride, [], m.disk⟩
  | baseUnknown {e : Failure} : m.isWindows platform = true →
      (environ.getD m.environment).value .databaseFolder = "" → m.baseFolder = .error e →
      Migrates m plan platform environ ⟨.error e, [], m.disk⟩
  | newRefused {base : BaseFolder} {e : Failure} : m.BelongsIn platform environ base →
      m.disk.hasEntry (m.newDatabase base) = .error e →
      Migrates m plan platform environ ⟨.error e, [], m.disk⟩
  | newExists {base : BaseFolder} : m.BelongsIn platform environ base →
      m.disk.hasEntry (m.newDatabase base) = .ok true →
      Migrates m plan platform environ ⟨.ok .newExists, [], m.disk⟩
  | oldRefused {base : BaseFolder} {e : Failure} : m.BelongsIn platform environ base →
      m.disk.hasEntry (m.newDatabase base) = .ok false →
      m.disk.hasEntry m.oldDatabase = .error e →
      Migrates m plan platform environ ⟨.error e, [], m.disk⟩
  | oldMissing {base : BaseFolder} : m.BelongsIn platform environ base →
      m.disk.hasEntry (m.newDatabase base) = .ok false →
      m.disk.hasEntry m.oldDatabase = .ok false →
      Migrates m plan platform environ ⟨.ok .oldMissing, [], m.disk⟩
  | move {base : BaseFolder} : m.BelongsIn platform environ base →
      m.disk.hasEntry (m.newDatabase base) = .ok false →
      m.disk.hasEntry m.oldDatabase = .ok true →
      Migrates m plan platform environ (m.moveDatabase plan m.oldDatabase (m.newDatabase base))

namespace Machine

variable {m : Machine} {platform : Option String} {environ : Option Environment}

theorem migrates_migrateUnder (m : Machine) (plan : FaultPlan) (platform : Option String)
    (environ : Option Environment) :
    m.Migrates plan platform environ (m.migrateUnder plan platform environ) := by
  rw [migrateUnder]
  cases hw : m.isWindows platform with
  | false => exact .offWindows hw
  | true =>
    rw [if_neg (by simp)]
    split
    · next hs => exact .overridden hw hs
    next hs =>
    simp only [ne_eq, Decidable.not_not] at hs
    cases hb : m.baseFolder with
    | error e => exact .baseUnknown hw hs hb
    | ok base =>
      have belongs : m.BelongsIn platform environ base := ⟨hw, hs, hb⟩
      simp only
      split
      · next e hn => exact .newRefused belongs hn
      · next hn => exact .newExists belongs hn
      · next hn =>
        split
        · next e ho => exact .oldRefused belongs hn ho
        · next ho => exact .oldMissing belongs hn ho
        · next ho => exact .move belongs hn ho

/-- The record of a database file that is copied. -/
def migratedRecord (old new : String) : Record :=
  ⟨.info, .settings, s!"Migrated database from {old} to {new}"⟩

/-- A migration that copies the database file: it belongs into the base folder, where there is
none, and the file of older releases is there. -/
structure Moves (m : Machine) (platform : Option String) (environ : Option Environment)
    (base : BaseFolder) (s t : Location) : Prop where
  belongs : m.BelongsIn platform environ base
  absent : m.disk.hasEntry (m.newDatabase base) = .ok false
  copies : m.disk.CopiesTo m.oldDatabase (m.newDatabase base) s t
  migrate_eq : m.migrate platform environ =
    ⟨.ok .copied, [migratedRecord m.oldDatabase (m.newDatabase base)],
      m.disk.put t (.file (m.disk.bytesAt s))⟩

/-- A migration that has not copied the database file: it leaves the disk as it was, and the record
of a copy is not among what it logs. -/
structure Stays (m : Machine) (r : Migration) : Prop where
  answer_ne : r.answer ≠ .ok .copied
  disk_eq : r.disk = m.disk
  warns : ∀ x ∈ r.records, x.severity = .warning ∧ x.origin = .settings

/-- A migration into a base folder goes by which of the two paths there is. -/
theorem BelongsIn.migrateUnder_eq {base : BaseFolder} (h : m.BelongsIn platform environ base)
    (plan : FaultPlan) :
    m.migrateUnder plan platform environ = match m.disk.hasEntry (m.newDatabase base) with
      | .error e => ⟨.error e, [], m.disk⟩
      | .ok true => ⟨.ok .newExists, [], m.disk⟩
      | .ok false => match m.disk.hasEntry m.oldDatabase with
        | .error e => ⟨.error e, [], m.disk⟩
        | .ok false => ⟨.ok .oldMissing, [], m.disk⟩
        | .ok true => m.moveDatabase plan m.oldDatabase (m.newDatabase base) := by
  have hset : ¬(environ.getD m.environment).value .databaseFolder ≠ "" := by
    rw [h.notSet]
    simp
  rw [migrateUnder, h.windows, if_neg (by simp), if_neg hset]
  cases hnew : m.disk.hasEntry (m.newDatabase base) with
  | error e => simp only [h.base_eq, hnew]
  | ok found =>
    cases found with
    | true => simp only [h.base_eq, hnew]
    | false =>
      cases m.disk.hasEntry m.oldDatabase with
      | error e => simp only [h.base_eq, hnew]
      | ok found => cases found <;> simp only [h.base_eq, hnew]

/-- Where the old database is there and none is in the new place, the migration is a copy. -/
theorem migrateUnder_eq_moveDatabase {base : BaseFolder}
    (h : m.BelongsIn platform environ base)
    (hn : m.disk.hasEntry (m.newDatabase base) = .ok false)
    (ho : m.disk.hasEntry m.oldDatabase = .ok true) (plan : FaultPlan) :
    m.migrateUnder plan platform environ =
      m.moveDatabase plan m.oldDatabase (m.newDatabase base) := by
  simp only [h.migrateUnder_eq, hn, ho]

theorem moves_of_copiesTo {base : BaseFolder} {s t : Location}
    (h : m.BelongsIn platform environ base)
    (hn : m.disk.hasEntry (m.newDatabase base) = .ok false)
    (hc : m.disk.CopiesTo m.oldDatabase (m.newDatabase base) s t) :
    m.Moves platform environ base s t := by
  have ho := Disk.hasEntry_of_openToRead hc.reads
  have hcopy := hc.copy_eq
  rw [Disk.copy] at hcopy
  refine ⟨h, hn, hc, ?_⟩
  rw [migrate, migrateUnder_eq_moveDatabase h hn ho]
  simp only [moveDatabase, hcopy, migratedRecord]

theorem migrate_cases (m : Machine) (platform : Option String) (environ : Option Environment) :
    m.Stays (m.migrate platform environ) ∨ ∃ base s t, m.Moves platform environ base s t := by
  have h := m.migrates_migrateUnder FaultPlan.none platform environ
  rw [← migrate] at h
  generalize m.migrate platform environ = r at h
  cases h with
  | offWindows | overridden | baseUnknown | newRefused | newExists | oldRefused | oldMissing =>
    exact .inl ⟨by simp, rfl, by simp⟩
  | @move base belongs hn ho =>
    rcases Disk.copy_cases m.oldDatabase hn with ⟨e, he⟩ | ⟨s, t, hc⟩
    · left
      simp only [moveDatabase, he]
      split
      · exact ⟨by simp, rfl, by simp⟩
      · exact ⟨by simp, rfl, by simp⟩
    · exact .inr ⟨base, s, t, moves_of_copiesTo belongs hn hc⟩

theorem moves_of_copied (h : (m.migrate platform environ).answer = .ok .copied) :
    ∃ base s t, m.Moves platform environ base s t := by
  rcases m.migrate_cases platform environ with hs | hm
  · exact absurd h hs.answer_ne
  · exact hm

theorem origin_of_mem_migrate {r : Record} (h : r ∈ (m.migrate platform environ).records) :
    r.origin = .settings := by
  rcases m.migrate_cases platform environ with hs | ⟨base, s, t, hm⟩
  · exact (hs.warns r h).2
  · rw [hm.migrate_eq] at h
    cases List.mem_singleton.mp h
    rfl

/-- A move of the database file does not end with the news that it was there already. -/
theorem moveDatabase_ne_newExists (m : Machine) (plan : FaultPlan) (old new : String) :
    (m.moveDatabase plan old new).answer ≠ .ok .newExists := by
  rw [moveDatabase]
  split
  · simp
  · split
    · simp
    · simp

theorem newExists_of_migrate (h : (m.migrate platform environ).answer = .ok .newExists) :
    ∃ base, m.BelongsIn platform environ base ∧
      m.disk.hasEntry (m.newDatabase base) = .ok true ∧
      (m.migrate platform environ).disk = m.disk := by
  have hm := m.migrates_migrateUnder FaultPlan.none platform environ
  rw [← migrate] at hm
  generalize m.migrate platform environ = r at h hm
  cases hm with
  | newExists belongs hn => exact ⟨_, belongs, hn, rfl⟩
  | move => exact absurd h (moveDatabase_ne_newExists _ _ _ _)
  | offWindows | overridden | baseUnknown | newRefused | oldRefused | oldMissing => cases h

/-- The text of the record of a copy fixes the two paths, as far as a text in which a path may hold
the word between them can. -/
theorem migratedRecord_inj {a b old new : String}
    (h : migratedRecord a b = migratedRecord old new) :
    a ++ " to " ++ b = old ++ " to " ++ new := by
  simpa [migratedRecord, toString, String.append_assoc] using h

/-- A machine on Windows with the database of an older release. In the new place of the database
stands a link that leads nowhere yet. -/
def outdated : Machine where
  environment := {}
  platform := "win32"
  executable := some "./bin/x-ui.exe"
  workingFolder := .found "/work"
  shippedName := "x-ui\n"
  shippedVersion := "2.6.0\n"
  legacyFolder := "old"
  disk := {
    entries := [(["old"], .folder), (["old", "x-ui.db"], .file [83, 81, 76]), (["bin"], .folder),
      (["bin", "x-ui.db"], .link "../data.db")]
    workingFolder := [] }
  threshold := .warning

theorem migrate_outdated : (outdated.migrate none none).answer = .ok .copied := by decide +kernel

end Machine

end PanelConfig
