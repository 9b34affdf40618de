import PanelConfig.Proofs.Startup

/-! The migration puts the database where the panel then looks for it. The path to which it copies
and the path that is reported afterwards are written in different ways, but the one is the plain
form of the other, and the file that is made is found by it through whatever links there are. -/

namespace PanelConfig.Machine

variable {m : Machine} {platform : Option String} {base : BaseFolder}

/-- The machine after a migration on its own. -/
def migrated (m : Machine) (platform : Option String) : Machine :=
  { m with disk := (m.migrate platform none).disk }

theorem databaseFolder_of_belongsIn (h : m.BelongsIn platform none base) :
    m.databaseFolder platform = .ok base.path := by
  have hf : m.environment.value .databaseFolder = "" := h.notSet
  rw [databaseFolder, if_neg (by simp [hf]), if_pos h.windows, h.base_eq, Except.map]

/-- A database that is not on a MySQL server needs no settings. -/
theorem databaseSettings_of_file
    (h : Text.lower (m.environment.value .connection) ≠ DatabaseSettings.mysql) :
    m.databaseSettings = .ok m.givenDatabase ∧ m.givenDatabase.isMysql = false := by
  have hm : m.givenDatabase.isMysql = false := decide_eq_false h
  refine ⟨?_, hm⟩
  rw [databaseSettings, DatabaseSettings.isIncomplete, hm, Bool.false_and,
    if_neg Bool.false_ne_true, DatabaseSettings.withPort, hm, if_neg Bool.false_ne_true]

/-- The path of a database that is not on a MySQL server is that of its file. -/
theorem databasePath_of_file
    (h : Text.lower (m.environment.value .connection) ≠ DatabaseSettings.mysql) :
    m.databasePath platform = (m.databaseFolder platform).map m.databaseFile := by
  obtain ⟨hs, hm⟩ := databaseSettings_of_file h
  rw [databasePath, requiredDatabase, hs]
  show connectionText _ _ _ = _
  rw [connectionText, hm, if_neg Bool.false_ne_true]

/-- After a migration into a base folder, the path of the database is that of its file there. -/
theorem databasePath_migrated
    (h : Text.lower (m.environment.value .connection) ≠ DatabaseSettings.mysql)
    (hb : m.BelongsIn platform none base) :
    (m.migrated platform).databasePath platform = .ok (m.databaseFile base.path) := by
  have hb' : (m.migrated platform).BelongsIn platform none base :=
    ⟨hb.windows, hb.notSet, by rw [← hb.base_eq]; exact baseFolder_congr rfl rfl⟩
  rw [databasePath_of_file (m := m.migrated platform) h, databaseFolder_of_belongsIn hb']
  rfl

theorem migrated_of_moves {s t : Location} (h : m.Moves platform none base s t) :
    (m.migrated platform).disk = m.disk.put t (.file (m.disk.bytesAt s)) := by
  rw [migrated, h.migrate_eq]

/-- A migration that copies, or finds the database in its new place, leaves an entry there. -/
theorem hasEntry_migrated
    (h : (m.migrate platform none).answer = .ok .copied ∨
      (m.migrate platform none).answer = .ok .newExists) :
    ∃ base, m.BelongsIn platform none base ∧
      (m.migrated platform).disk.hasEntry (m.newDatabase base) = .ok true := by
  rcases h with h | h
  · obtain ⟨base, s, t, hm⟩ := moves_of_copied h
    refine ⟨base, hm.belongs, ?_⟩
    rw [migrated_of_moves hm]
    exact Disk.hasEntry_of_openToRead (Disk.openToRead_put_self hm.absent hm.copies.writes _)
  · obtain ⟨base, belongs, hn, hd⟩ := newExists_of_migrate h
    refine ⟨base, belongs, ?_⟩
    rw [migrated, hd, hn]

/-- A migration that copies leaves the bytes of the old database in both places. -/
theorem read_migrated (h : (m.migrate platform none).answer = .ok .copied) :
    ∃ base bytes, m.BelongsIn platform none base ∧ m.disk.read m.oldDatabase = .ok bytes ∧
      (m.migrated platform).disk.read (m.newDatabase base) = .ok bytes ∧
      (m.migrated platform).disk.read m.oldDatabase = .ok bytes := by
  obtain ⟨base, s, t, hm⟩ := moves_of_copied h
  obtain ⟨hnew, hold⟩ := hm.copies.read_eq hm.absent
  rw [migrated_of_moves hm]
  exact ⟨base, m.disk.bytesAt s, hm.belongs, hm.copies.read_source, hnew, hold⟩

/-- Before the end of the migration the service tells nothing of where the database is. -/
theorem database_not_mem_earlier (m : Machine) (path : String) :
    note s!"Database: {path}" ∉ m.openingRecords ++ m.openingMigration.records := by
  intro h
  rcases List.mem_append.mp h with h | h
  · rcases mem_openingRecords h with ⟨hs, -⟩ | h
    · cases hs
    · exact absurd h (note_ne (by simp [toString]))
  · cases origin_of_mem_migrate h

/-- The record of a copy stands among those of the migration. -/
theorem moves_of_migratedRecord {a b : String} {requests : List Service.Request}
    (h : migratedRecord a b ∈ (m.runService requests).records) :
    ∃ base s t, m.Moves (some m.platform) none base s t ∧
      a ++ " to " ++ b = m.oldDatabase ++ " to " ++ m.newDatabase base := by
  rw [records_runService, List.mem_append, List.mem_append] at h
  rcases h with (h | h) | h
  · rcases mem_openingRecords h with ⟨hs, -⟩ | h
    · cases hs
    · cases congrArg Record.origin h
  · rcases m.migrate_cases (some m.platform) none with hs | ⟨base, s, t, hm⟩
    · cases (hs.warns _ h).1
    · rw [openingMigration, hm.migrate_eq] at h
      exact ⟨base, s, t, hm, migratedRecord_inj (List.mem_singleton.mp h)⟩
  · cases severity_of_mem_laterRecords h rfl

/-- The path of which the service tells is that of the file in the base folder. -/
theorem path_eq_of_record {path : String} {requests : List Service.Request}
    (hc : Text.lower (m.environment.value .connection) ≠ DatabaseSettings.mysql)
    (hb : m.BelongsIn (some m.platform) none base)
    (h : note s!"Database: {path}" ∈ (m.runService requests).records) :
    path = m.databaseFile base.path := by
  rw [records_runService, List.mem_append] at h
  obtain ⟨s, folder, hs, hf, he⟩ :=
    eq_of_mem_laterRecords (h.resolve_left (database_not_mem_earlier m path))
  obtain ⟨hs', hm⟩ := databaseSettings_of_file hc
  have hs : m.givenDatabase = s := Except.ok.inj (hs'.symm.trans hs)
  have hf : base.path = folder := by
    have hw : m.databaseFolder (some m.platform) = m.databaseFolder none := by
      rw [databaseFolder, databaseFolder, isWindows_platform]
    exact Except.ok.inj ((databaseFolder_of_belongsIn hb).symm.trans (hw.trans hf))
  rw [databaseRecord, ← hs, hm, if_neg Bool.false_ne_true, ← hf] at he
  simpa [note, toString] using he

/-- Of two parts of a list, what stands in the first part alone comes before what stands in the
second alone. -/
theorem lt_of_getElem?_append {α : Type} {xs ys : List α} {a b : α} {i j : Nat} (ha : a ∉ ys)
    (hb : b ∉ xs) (hi : (xs ++ ys)[i]? = some a) (hj : (xs ++ ys)[j]? = some b) : i < j := by
  have hlow : i < xs.length := by
    apply Nat.lt_of_not_le
    intro h
    rw [List.getElem?_append_right h] at hi
    exact ha (List.mem_of_getElem? hi)
  have hhigh : xs.length ≤ j := by
    apply Nat.le_of_not_lt
    intro h
    rw [List.getElem?_append_left h] at hj
    exact hb (List.mem_of_getElem? hj)
  omega

/-- The migration puts the database exactly where the panel then looks for it. Unless the database
is on a MySQL server, its path leads to an entry once the migration of a platform has copied or
found one, which it does only on Windows and with no folder set; after a copy that path reads the
bytes that the old one read and still reads. What a start logs of the copy comes before what it logs
of the database, and the copy has gone to the plain form of the path that it reports. The paths in
the record of a copy are compared with the word between them, since they may hold that word. -/
theorem migrated_database_found (m : Machine) :
    (Text.lower (m.environment.value .connection) ≠ DatabaseSettings.mysql →
      ∀ platform : Option String,
      ((m.migrate platform none).answer = .ok .copied ∨
        (m.migrate platform none).answer = .ok .newExists →
        ∃ path, (m.migrated platform).databasePath platform = .ok path ∧
          (m.migrated platform).disk.hasEntry (Path.plain path) = .ok true) ∧
      ((m.migrate platform none).answer = .ok .copied →
        ∃ path bytes, (m.migrated platform).databasePath platform = .ok path ∧
          m.disk.read m.oldDatabase = .ok bytes ∧
          (m.migrated platform).disk.read (Path.plain path) = .ok bytes ∧
          (m.migrated platform).disk.read m.oldDatabase = .ok bytes)) ∧
    ∀ (requests : List Service.Request) (i j : Nat) (a b path : String),
      (m.runService requests).records[i]? = some (migratedRecord a b) →
      (m.runService requests).records[j]? = some (note s!"Database: {path}") →
      i < j ∧ (Text.lower (m.environment.value .connection) ≠ DatabaseSettings.mysql →
        a ++ " to " ++ b = m.oldDatabase ++ " to " ++ Path.plain path ∧
          (a = m.oldDatabase → b = Path.plain path)) := by
  refine ⟨fun hc platform => ⟨fun h => ?_, fun h => ?_⟩, fun requests i j a b path hi hj => ?_⟩
  · obtain ⟨base, hb, he⟩ := hasEntry_migrated h
    exact ⟨_, databasePath_migrated hc hb, he⟩
  · obtain ⟨base, bytes, hb, hread, hnew, hold⟩ := read_migrated h
    exact ⟨_, bytes, databasePath_migrated hc hb, hread, hnew, hold⟩
  · obtain ⟨base, s, t, hm, htext⟩ := moves_of_migratedRecord (List.mem_of_getElem? hi)
    refine ⟨?_, fun hc => ?_⟩
    · rw [records_runService] at hi hj
      refine lt_of_getElem?_append (fun h => ?_) (database_not_mem_earlier m path) hi hj
      cases severity_of_mem_laterRecords h rfl
    · have hp := path_eq_of_record hc hm.belongs (List.mem_of_getElem? hj)
      rw [newDatabase, ← hp] at htext
      refine ⟨htext, ?_⟩
      rintro rfl
      simpa [String.append_assoc] using htext

theorem migrated_database_found_outdated :
    (outdated.migrate none none).answer = .ok .copied ∧
      (∃ path bytes, (outdated.migrated none).databasePath none = .ok path ∧
        outdated.disk.read outdated.oldDatabase = .ok bytes ∧
        (outdated.migrated none).disk.read (Path.plain path) = .ok bytes ∧
        (outdated.migrated none).disk.read outdated.oldDatabase = .ok bytes) ∧
      ∃ a b path, (outdated.runService []).records[1]? = some (migratedRecord a b) ∧
        (outdated.runService []).records[5]? = some (note s!"Database: {path}") ∧
        b ≠ path ∧ b = Path.plain path := by
  have hc : Text.lower (outdated.environment.value .connection) ≠ DatabaseSettings.mysql := by
    decide +kernel
  have hr : ∃ a b path, (outdated.runService []).records[1]? = some (migratedRecord a b) ∧
      (outdated.runService []).records[5]? = some (note s!"Database: {path}") ∧
      a = outdated.oldDatabase ∧ b ≠ path :=
    ⟨"old/x-ui.db", "bin/x-ui.db", "./bin/x-ui.db", by decide +kernel, by decide +kernel,
      by decide +kernel, by decide +kernel⟩
  obtain ⟨hfound, hrecords⟩ := migrated_database_found outdated
  obtain ⟨a, b, path, hi, hj, ha, hne⟩ := hr
  have hb := ((hrecords [] 1 5 a b path hi hj).2 hc).2 ha
  exact ⟨migrate_outdated, (hfound hc none).2 migrate_outdated, a, b, path, hi, hj, hne, hb⟩

end PanelConfig.Machine
