import PanelConfig.Proofs.Outcome
import PanelConfig.Proofs.Startup

/-! What a migration lets escape. Of the failures of the system, a migration contains all but one:
it asks for an entry before it copies, and a path that is too long is refused there, outside the
part that is contained. Nothing else of the system can end a start of the service. -/

namespace PanelConfig.Machine

/-- The system can tell the working folder, or gives an error of its own. -/
def HasSoundQuery (m : Machine) : Prop :=
  ∀ fault message, m.workingFolder = .failed fault message → fault.isSystem = true

/-- A migration comes upon a path that is too long: the new path of the database, or the old one if
the new one reaches no entry. -/
def MeetsLongPath (m : Machine) (platform : Option String) (environ : Option Environment) : Prop :=
  ∃ base, m.BelongsIn platform environ base ∧
    (m.disk.IsTooLong (m.newDatabase base) ∨
      ¬m.disk.Holds (m.newDatabase base) ∧ m.disk.IsTooLong m.oldDatabase)

variable {m : Machine} {platform : Option String} {environ : Option Environment}
  {plan : FaultPlan} {e : Failure}

theorem exists_baseFolder (h : m.HasSoundQuery) : ∃ base, m.baseFolder = .ok base := by
  cases hb : m.baseFolder with
  | ok base => exact ⟨base, rfl⟩
  | error e =>
    obtain ⟨-, -, -, hw, hsystem⟩ := baseFolder_eq_error_iff.mp hb
    rw [h _ _ hw] at hsystem
    cases hsystem

/-- The failures that escape: a path that is too long, and a null character, which is not of the
system. -/
theorem Breaks.cases_of_hasSoundQuery (h : m.Breaks platform environ e) (hm : m.HasSoundQuery) :
    e = .nullCharacter ∨
      (∃ path, e = .refused .nameTooLong path) ∧ m.MeetsLongPath platform environ := by
  cases h with
  | baseUnknown _ _ hb =>
    obtain ⟨base, hbase⟩ := exists_baseFolder hm
    rw [hbase] at hb
    cases hb
  | newTooLong belongs hlong => exact .inr ⟨⟨_, rfl⟩, _, belongs, .inl hlong⟩
  | oldTooLong belongs hholds _ hlong => exact .inr ⟨⟨_, rfl⟩, _, belongs, .inr ⟨hholds, hlong⟩⟩
  | newNull => exact .inl rfl

theorem MeetsLongPath.breaks (h : m.MeetsLongPath platform environ) :
    ∃ path, m.Breaks platform environ (.refused .nameTooLong path) := by
  obtain ⟨base, belongs, hlong⟩ := h
  by_cases hnew : m.disk.IsTooLong (m.newDatabase base)
  · exact ⟨_, .newTooLong belongs hnew⟩
  · obtain ⟨hholds, hold⟩ := hlong.resolve_left hnew
    exact ⟨_, .oldTooLong belongs hholds hnew hold⟩

theorem migrateUnder_fails_of_system_iff (h : m.HasSoundQuery) (plan : FaultPlan) :
    (∃ e, (m.migrateUnder plan platform environ).answer = .error e ∧ e.isSystem = true) ↔
      m.MeetsLongPath platform environ := by
  constructor
  · rintro ⟨e, he, hsystem⟩
    rcases (breaks_of_answer he).cases_of_hasSoundQuery h with rfl | ⟨-, hlong⟩
    · cases hsystem
    · exact hlong
  · intro hlong
    obtain ⟨path, hbreaks⟩ := hlong.breaks
    exact ⟨_, hbreaks.answer_eq plan, rfl⟩

/-- A failure of the system that ends a start of the service is one of its migration. -/
theorem runService_fails_of_system_iff (requests : List Service.Request)
    (hsystem : e.isSystem = true) :
    (m.runService requests).answer = .error e ↔ m.openingMigration.answer = .error e := by
  cases hm : m.openingMigration.answer with
  | error e' =>
    rw [runService_of_error hm]
    simp only [Except.error.injEq]
  | ok o =>
    rw [answer_runService_of_ok hm]
    cases m.databaseSettings with
    | ok s => simp
    | error _ =>
      simp only [Except.error.injEq, reduceCtorEq, iff_false]
      rintro rfl
      cases hsystem

/-- Of all that the system can fail at, only a path that is too long escapes from a migration. Where
the system can tell the working folder or gives an error of its own, and whatever the device does
while it copies, a migration has an outcome, or ends for a null character or for a path that is too
long. It ends for a failure of the system exactly if it meets such a path, and a start of the
service does so exactly if its migration does. On a disk without such names in its links, and with
short paths for the database, no failure of the system escapes. -/
theorem only_long_paths_escape (h : m.HasSoundQuery) :
    (∀ (plan : FaultPlan) (platform : Option String) (environ : Option Environment),
      ((∃ o, (m.migrateUnder plan platform environ).answer = .ok o) ∨
        (m.migrateUnder plan platform environ).answer = .error .nullCharacter ∨
        ∃ path, (m.migrateUnder plan platform environ).answer =
          .error (.refused .nameTooLong path)) ∧
      ((∃ e, (m.migrateUnder plan platform environ).answer = .error e ∧ e.isSystem = true) ↔
        m.MeetsLongPath platform environ)) ∧
    (∀ requests, (∃ e, (m.runService requests).answer = .error e ∧ e.isSystem = true) ↔
      m.MeetsLongPath (some m.platform) none) ∧
    (m.disk.HasShortLinks → Disk.IsShort m.oldDatabase →
      (∀ base, m.baseFolder = .ok base → Disk.IsShort (m.newDatabase base)) →
      ∀ platform environ, ¬m.MeetsLongPath platform environ) := by
  refine ⟨fun plan platform environ => ⟨?_, migrateUnder_fails_of_system_iff h plan⟩,
    fun requests => ?_, fun hlinks hold hnew platform environ => ?_⟩
  · cases ha : (m.migrateUnder plan platform environ).answer with
    | ok o => exact .inl ⟨o, rfl⟩
    | error e =>
      rcases (breaks_of_answer ha).cases_of_hasSoundQuery h with rfl | ⟨⟨path, rfl⟩, -⟩
      · exact .inr (.inl rfl)
      · exact .inr (.inr ⟨path, rfl⟩)
  · rw [← migrateUnder_fails_of_system_iff h FaultPlan.none]
    constructor
    · rintro ⟨e, he, hsystem⟩
      exact ⟨e, (runService_fails_of_system_iff requests hsystem).mp he, hsystem⟩
    · rintro ⟨e, he, hsystem⟩
      exact ⟨e, (runService_fails_of_system_iff requests hsystem).mpr he, hsystem⟩
  · rintro ⟨base, belongs, hlong | ⟨-, hlong⟩⟩
    · exact Disk.not_isTooLong hlinks (hnew base belongs.base_eq) hlong
    · exact Disk.not_isTooLong hlinks hold hlong

/-- A text without slashes is a path of one name. -/
theorem names_ofList {cs : List Char} (h : '/' ∉ cs) :
    Path.names (String.ofList cs) = [String.ofList cs] := by
  rw [Path.names, String.toList_ofList, List.splitOn_eq_singleton h, List.map_cons, List.map_nil]

/-- A name of one byte more than the system takes. -/
def longName : String := String.ofList (List.replicate 256 'a')

theorem names_longName : Path.names longName = [longName] := by
  have hslash : '/' ∉ List.replicate 256 'a' :=
    fun h => absurd (List.eq_of_mem_replicate h) (by decide)
  exact names_ofList hslash

/-- An outdated machine, but for a name that is too long in the target of its link. -/
def overlong : Machine := outdated.linkingTo longName

theorem newDatabase_overlong : overlong.newDatabase ⟨"./bin", .executable⟩ = "bin/x-ui.db" := by
  decide +kernel

/-- The walk enters the folder, follows the link, and meets the name. -/
theorem isTooLong_overlong : overlong.disk.IsTooLong "bin/x-ui.db" := by
  have hnames : Path.names "bin/x-ui.db" = ["bin", "x-ui.db"] := by decide +kernel
  have hbin : Disk.LooksUp .look "bin" ["x-ui.db"] := by constructor <;> decide
  have hlink : Disk.LooksUp .look "x-ui.db" [] := by constructor <;> decide
  have hlong : Disk.maxNameBytes < longName.utf8ByteSize := by decide +kernel
  have hfolder : overlong.disk.find? ["bin"] = some .folder := by decide +kernel
  have htarget : overlong.disk.find? ["bin", "x-ui.db"] = some (.link longName) := rfl
  refine ⟨by decide +kernel, .inr ?_⟩
  rw [hnames]
  refine .enter hbin hfolder (.follow hlink htarget ?_)
  rw [names_longName]
  exact .meet (by decide +kernel) (by decide +kernel) hlong

theorem belongsIn_overlong (h : overlong.isWindows platform = true) :
    overlong.BelongsIn platform none ⟨"./bin", .executable⟩ :=
  ⟨h, by decide +kernel, by decide +kernel⟩

theorem breaks_overlong (h : overlong.isWindows platform = true) :
    overlong.Breaks platform none (.refused .nameTooLong "bin/x-ui.db") := by
  have hlong := isTooLong_overlong
  rw [← newDatabase_overlong] at hlong ⊢
  exact .newTooLong (belongsIn_overlong h) hlong

theorem hasShortLinks_outdated : outdated.disk.HasShortLinks := by
  intro l target h
  rw [Disk.find?] at h
  split at h
  · cases h
  · obtain ⟨_, _, hentries, -⟩ := List.lookup_eq_some_iff.mp h
    have hmem : (l, Entry.link target) ∈ outdated.disk.entries := by simp [hentries]
    have htarget : target = "../data.db" := by
      simp only [outdated, List.mem_cons, Prod.mk.injEq, Entry.link.injEq, reduceCtorEq, and_false,
        List.not_mem_nil, or_false, false_or] at hmem
      exact hmem.2
    subst htarget
    decide +kernel

/-- The machine can tell its working folder and has a database to be copied, but it neither migrates
nor starts the service. -/
theorem long_name_escapes :
    overlong.workingFolder = .found "/work" ∧
      overlong.disk.hasEntry overlong.oldDatabase = .ok true ∧
      (overlong.migrate none none).answer = .error (.refused .nameTooLong "bin/x-ui.db") ∧
      (overlong.runService []).answer = .error (.refused .nameTooLong "bin/x-ui.db") ∧
      (Failure.refused .nameTooLong "bin/x-ui.db").isSystem = true := by
  have hmigrate : (overlong.migrate none none).answer =
      .error (.refused .nameTooLong "bin/x-ui.db") := by
    rw [migrate]
    exact (breaks_overlong (by decide +kernel)).answer_eq FaultPlan.none
  have hopening : overlong.openingMigration.answer =
      .error (.refused .nameTooLong "bin/x-ui.db") := by
    rw [openingMigration, migrate]
    exact (breaks_overlong (by decide +kernel)).answer_eq FaultPlan.none
  refine ⟨rfl, by decide +kernel, hmigrate, ?_, rfl⟩
  rw [runService_of_error hopening]

/-- The path of the new database is too long on this machine. Without the name in the link, nothing
on it is. -/
theorem only_long_paths_escape_overlong :
    overlong.HasSoundQuery ∧ overlong.MeetsLongPath (some overlong.platform) none ∧
      (∃ e, (overlong.runService []).answer = .error e ∧ e.isSystem = true) ∧
      outdated.HasSoundQuery ∧ outdated.disk.HasShortLinks ∧
      ∀ platform environ, ¬outdated.MeetsLongPath platform environ := by
  have hsound : overlong.HasSoundQuery := fun _ _ h => by cases h
  have hsound' : outdated.HasSoundQuery := fun _ _ h => by cases h
  have hmeets : overlong.MeetsLongPath (some overlong.platform) none := by
    refine ⟨_, belongsIn_overlong (by decide +kernel), .inl ?_⟩
    rw [newDatabase_overlong]
    exact isTooLong_overlong
  obtain ⟨-, hservice, -⟩ := only_long_paths_escape hsound
  obtain ⟨-, -, hshort⟩ := only_long_paths_escape hsound'
  have hbase : outdated.baseFolder = .ok ⟨"./bin", .executable⟩ := by decide +kernel
  have hold : Disk.IsShort outdated.oldDatabase := ⟨by decide +kernel, by decide +kernel⟩
  have hnew : Disk.IsShort (outdated.newDatabase ⟨"./bin", .executable⟩) :=
    ⟨by decide +kernel, by decide +kernel⟩
  refine ⟨hsound, hmeets, (hservice []).mpr hmeets, hsound', hasShortLinks_outdated,
    hshort hasShortLinks_outdated hold fun base hb => ?_⟩
  obtain rfl := Except.ok.inj (hbase.symm.trans hb)
  exact hnew

end PanelConfig.Machine
