import PanelConfig.Proofs.Disk.Faults
import PanelConfig.Proofs.Disk.Reach
import PanelConfig.Proofs.Footprint
import PanelConfig.Proofs.Migration
import PanelConfig.Proofs.Session

/-! The outcome of a migration, decided by where the two paths of the database lead. The first of
the conditions that holds calls for the outcome, and four things alone keep a migration from having
one: a base folder that cannot be told, either path being too long, and a null character in the new
path. -/

namespace PanelConfig.Machine

/-- The outcome that the platform, the override and the two paths of the database call for. -/
inductive CallsFor (m : Machine) (platform : Option String) (environ : Option Environment) :
    MigrationOutcome → Prop
  | skippedPlatform : ¬"win".toList <+: (m.platformOr platform).toList →
      CallsFor m platform environ .skippedPlatform
  | skippedOverride : "win".toList <+: (m.platformOr platform).toList →
      (environ.getD m.environment).value .databaseFolder ≠ "" →
      CallsFor m platform environ .skippedOverride
  | newExists {base : BaseFolder} : m.BelongsIn platform environ base →
      m.disk.Holds (m.newDatabase base) → CallsFor m platform environ .newExists
  | oldMissing {base : BaseFolder} : m.BelongsIn platform environ base →
      ¬m.disk.Holds (m.newDatabase base) → ¬m.disk.Holds m.oldDatabase →
      CallsFor m platform environ .oldMissing
  | copied {base : BaseFolder} {s t : Location} : m.BelongsIn platform environ base →
      m.disk.Reaches m.oldDatabase (.file s) → m.disk.Reaches (m.newDatabase base) (.vacant t) →
      CallsFor m platform environ .copied
  | failed {base : BaseFolder} : m.BelongsIn platform environ base →
      ¬m.disk.Holds (m.newDatabase base) → m.disk.Holds m.oldDatabase →
      (∀ s t, m.disk.Reaches m.oldDatabase (.file s) →
        ¬m.disk.Reaches (m.newDatabase base) (.vacant t)) →
      CallsFor m platform environ .failed

/-- The failures that keep a migration from having an outcome. -/
inductive Breaks (m : Machine) (platform : Option String) (environ : Option Environment) :
    Failure → Prop
  | baseUnknown {e : Failure} : m.isWindows platform = true →
      (environ.getD m.environment).value .databaseFolder = "" → m.baseFolder = .error e →
      Breaks m platform environ e
  | newTooLong {base : BaseFolder} : m.BelongsIn platform environ base →
      m.disk.IsTooLong (m.newDatabase base) →
      Breaks m platform environ (.refused .nameTooLong (m.newDatabase base))
  | oldTooLong {base : BaseFolder} : m.BelongsIn platform environ base →
      ¬m.disk.Holds (m.newDatabase base) → ¬m.disk.IsTooLong (m.newDatabase base) →
      m.disk.IsTooLong m.oldDatabase →
      Breaks m platform environ (.refused .nameTooLong m.oldDatabase)
  | newNull {base : BaseFolder} {s : Location} : m.BelongsIn platform environ base →
      Disk.hasNull (m.newDatabase base) = true → m.disk.Reaches m.oldDatabase (.file s) →
      Breaks m platform environ .nullCharacter

/-- The record of a copy that has failed. -/
def failedRecord (old : String) (e : Failure) : Record :=
  ⟨.warning, .settings, s!"Failed to migrate database from {old}: {e.message}"⟩

variable {m : Machine} {platform : Option String} {environ : Option Environment}
  {plan : FaultPlan} {old new : String} {base : BaseFolder} {s t : Location} {e : Failure}

theorem isWindows_iff (m : Machine) (platform : Option String) :
    m.isWindows platform = true ↔ "win".toList <+: (m.platformOr platform).toList :=
  List.isPrefixOf_iff_prefix

/-! A move of the database file, by what becomes of opening the two files. -/

theorem isSystem_of_refusesCopy (h : m.disk.RefusesCopy old new e) : e.isSystem = true := by
  cases h with
  | source | target => rfl

theorem moveDatabase_of_refusesCopy (h : m.disk.RefusesCopy old new e) (plan : FaultPlan) :
    m.moveDatabase plan old new = ⟨.ok .failed, [failedRecord old e], m.disk⟩ := by
  have hsystem := isSystem_of_refusesCopy h
  have hcopy : m.disk.copyUnder plan old new = (.error e, m.disk) := by
    cases h with
    | source hs => simp only [Disk.copyUnder, hs]
    | target hs ht => simp only [Disk.copyUnder, hs, ht]
  simp only [moveDatabase, hcopy, hsystem, if_true, failedRecord]

theorem moveDatabase_of_nullCharacter (hs : m.disk.openToRead old = .ok s)
    (ht : m.disk.openToWrite new = .error .nullCharacter) (plan : FaultPlan) :
    m.moveDatabase plan old new = ⟨.error .nullCharacter, [], m.disk⟩ := by
  have hcopy : m.disk.copyUnder plan old new = (.error .nullCharacter, m.disk) := by
    simp only [Disk.copyUnder, hs, ht]
  simp only [moveDatabase, hcopy]
  rfl

/-- Once its two files are open, a move has an outcome, whatever the device does. -/
theorem moveDatabase_of_copiesTo (h : m.disk.CopiesTo old new s t) (plan : FaultPlan) :
    (m.moveDatabase plan old new).answer = .ok .copied ∨
      (m.moveDatabase plan old new).answer = .ok .failed := by
  obtain ⟨front, -, hdisk, ⟨hok, -⟩ | ⟨message, hfault⟩⟩ := h.copyUnder_eq plan
  · have hcopy : m.disk.copyUnder plan old new = (.ok (), _) := Prod.ext hok hdisk
    simp only [moveDatabase, hcopy, true_or]
  · have hcopy : m.disk.copyUnder plan old new = (.error (.device message), _) :=
      Prod.ext hfault hdisk
    right
    simp only [moveDatabase, hcopy]
    rfl

/-! The failures. -/

theorem breaks_of_answer (h : (m.migrateUnder plan platform environ).answer = .error e) :
    m.Breaks platform environ e := by
  have hm := m.migrates_migrateUnder plan platform environ
  generalize m.migrateUnder plan platform environ = r at h hm
  cases hm with
  | offWindows | overridden | newExists | oldMissing => cases h
  | baseUnknown hw hs hb =>
    cases h
    exact .baseUnknown hw hs hb
  | newRefused belongs hn =>
    cases h
    obtain ⟨hlong, rfl⟩ := Disk.hasEntry_eq_error_iff.mp hn
    exact .newTooLong belongs hlong
  | oldRefused belongs hn ho =>
    cases h
    obtain ⟨hholds, hshort⟩ := Disk.hasEntry_eq_false_iff.mp hn
    obtain ⟨hlong, rfl⟩ := Disk.hasEntry_eq_error_iff.mp ho
    exact .oldTooLong belongs hholds hshort hlong
  | @move base belongs hn ho =>
    rcases Disk.copy_opens ho hn with ⟨e, hr⟩ | ⟨s, hs, hnull, hw⟩ | ⟨s, t, hs, ht⟩
    · rw [moveDatabase_of_refusesCopy hr] at h
      cases h
    · rw [moveDatabase_of_nullCharacter (Disk.openToRead_eq_ok_iff_reaches.mpr hs) hw] at h
      cases h
      exact .newNull belongs hnull hs
    · rcases moveDatabase_of_copiesTo (Disk.copiesTo_of_reaches hs ht) plan with hm | hm
      · rw [hm] at h
        cases h
      · rw [hm] at h
        cases h

theorem Breaks.answer_eq (h : m.Breaks platform environ e) (plan : FaultPlan) :
    (m.migrateUnder plan platform environ).answer = .error e := by
  cases h with
  | baseUnknown hw hs hb =>
    have hset : ¬(environ.getD m.environment).value .databaseFolder ≠ "" := by simp [hs]
    rw [migrateUnder, hw, if_neg (by simp), if_neg hset]
    simp only [hb]
  | newTooLong belongs hlong =>
    have hn := Disk.hasEntry_eq_error_iff.mpr ⟨hlong, rfl⟩
    simp only [belongs.migrateUnder_eq, hn]
  | oldTooLong belongs hholds hshort hlong =>
    have hn := Disk.hasEntry_eq_false_iff.mpr ⟨hholds, hshort⟩
    have ho := Disk.hasEntry_eq_error_iff.mpr ⟨hlong, rfl⟩
    simp only [belongs.migrateUnder_eq, hn, ho]
  | @newNull base _ belongs hnull hs =>
    have hread := Disk.openToRead_eq_ok_iff_reaches.mpr hs
    have hn : m.disk.hasEntry (m.newDatabase base) = .ok false := by
      rw [Disk.hasEntry, hnull, if_pos rfl]
    have hwrite : m.disk.openToWrite (m.newDatabase base) = .error .nullCharacter := by
      rw [Disk.openToWrite, hnull, if_pos rfl]
    rw [migrateUnder_eq_moveDatabase belongs hn (Disk.hasEntry_of_openToRead hread),
      moveDatabase_of_nullCharacter hread hwrite]

theorem migrateUnder_eq_error_iff :
    (m.migrateUnder plan platform environ).answer = .error e ↔ m.Breaks platform environ e :=
  ⟨breaks_of_answer, fun h => h.answer_eq plan⟩

/-! The outcomes. -/

theorem copied_of_reaches (belongs : m.BelongsIn platform environ base)
    (hs : m.disk.Reaches m.oldDatabase (.file s))
    (ht : m.disk.Reaches (m.newDatabase base) (.vacant t)) :
    m.Moves platform environ base s t :=
  moves_of_copiesTo belongs ht.hasEntry_eq_false (Disk.copiesTo_of_reaches hs ht)

theorem callsFor_of_answer {o : MigrationOutcome}
    (h : (m.migrate platform environ).answer = .ok o) : m.CallsFor platform environ o := by
  have hm := m.migrates_migrateUnder FaultPlan.none platform environ
  rw [← migrate] at hm
  generalize m.migrate platform environ = r at h hm
  cases hm with
  | baseUnknown | newRefused | oldRefused => cases h
  | offWindows hw =>
    cases h
    refine .skippedPlatform ?_
    rw [← isWindows_iff, hw]
    exact Bool.false_ne_true
  | overridden hw hs =>
    cases h
    exact .skippedOverride ((m.isWindows_iff platform).mp hw) hs
  | newExists belongs hn =>
    cases h
    exact .newExists belongs (Disk.hasEntry_eq_true_iff_holds.mp hn)
  | oldMissing belongs hn ho =>
    cases h
    exact .oldMissing belongs (Disk.hasEntry_eq_false_iff.mp hn).1
      (Disk.hasEntry_eq_false_iff.mp ho).1
  | @move base belongs hn ho =>
    rcases Disk.copy_opens ho hn with ⟨e, hr⟩ | ⟨s, hs, hnull, hw⟩ | ⟨s, t, hs, ht⟩
    · rw [moveDatabase_of_refusesCopy hr] at h
      cases h
      refine .failed belongs (Disk.hasEntry_eq_false_iff.mp hn).1
        (Disk.hasEntry_eq_true_iff_holds.mp ho) fun s t hs ht => ?_
      have hcopies := Disk.copiesTo_of_reaches hs ht
      cases hr with
      | source hread =>
        rw [hcopies.reads] at hread
        cases hread
      | target _ hwrite =>
        rw [hcopies.writes] at hwrite
        cases hwrite
    · rw [moveDatabase_of_nullCharacter (Disk.openToRead_eq_ok_iff_reaches.mpr hs) hw] at h
      cases h
    · have hmoves := copied_of_reaches belongs hs ht
      rw [← migrateUnder_eq_moveDatabase belongs hn ho, ← migrate, hmoves.migrate_eq] at h
      cases h
      exact .copied belongs hs ht

/-- Unless it breaks, a migration has the outcome that is called for. -/
theorem CallsFor.answer_eq {o : MigrationOutcome} (h : m.CallsFor platform environ o)
    (hb : ∀ e, ¬m.Breaks platform environ e) : (m.migrate platform environ).answer = .ok o := by
  have hnew : ∀ base, m.BelongsIn platform environ base →
      ¬m.disk.Holds (m.newDatabase base) → m.disk.hasEntry (m.newDatabase base) = .ok false :=
    fun base belongs hholds => Disk.hasEntry_eq_false_iff.mpr
      ⟨hholds, fun hlong => hb _ (.newTooLong belongs hlong)⟩
  rw [migrate]
  cases h with
  | skippedPlatform hw =>
    rw [← isWindows_iff, Bool.not_eq_true] at hw
    rw [migrateUnder, hw]
    rfl
  | skippedOverride hw hs =>
    rw [← isWindows_iff] at hw
    rw [migrateUnder, hw, if_neg (by simp), if_pos hs]
  | newExists belongs hholds =>
    simp only [belongs.migrateUnder_eq, Disk.hasEntry_eq_true_iff_holds.mpr hholds]
  | @oldMissing base belongs hholds hold =>
    have hn := hnew base belongs hholds
    have hshort := (Disk.hasEntry_eq_false_iff.mp hn).2
    have ho := Disk.hasEntry_eq_false_iff.mpr
      ⟨hold, fun hlong => hb _ (.oldTooLong belongs hholds hshort hlong)⟩
    simp only [belongs.migrateUnder_eq, hn, ho]
  | copied belongs hs ht =>
    rw [← migrate, (copied_of_reaches belongs hs ht).migrate_eq]
  | @failed base belongs hholds hold hnot =>
    have hn := hnew base belongs hholds
    have ho := Disk.hasEntry_eq_true_iff_holds.mpr hold
    rw [migrateUnder_eq_moveDatabase belongs hn ho]
    rcases Disk.copy_opens ho hn with ⟨e, hr⟩ | ⟨s, hs, hnull, -⟩ | ⟨s, t, hs, ht⟩
    · rw [moveDatabase_of_refusesCopy hr]
    · exact absurd (.newNull belongs hnull hs) (hb _)
    · exact absurd ht (hnot s t hs)

theorem migrate_eq_ok_iff {o : MigrationOutcome} :
    (m.migrate platform environ).answer = .ok o ↔
      m.CallsFor platform environ o ∧ ∀ e, ¬m.Breaks platform environ e := by
  constructor
  · intro h
    refine ⟨callsFor_of_answer h, fun e he => ?_⟩
    have herror := he.answer_eq FaultPlan.none
    rw [← migrate, h] at herror
    cases herror
  · rintro ⟨h, hb⟩
    exact h.answer_eq hb

/-- What a migration logs: one record on a copy or on one that has failed, or nothing. -/
inductive Tells (m : Machine) (platform : Option String) (environ : Option Environment)
    (r : Migration) : Prop
  | copied {base : BaseFolder} : m.BelongsIn platform environ base → r.answer = .ok .copied →
      r.records = [migratedRecord m.oldDatabase (m.newDatabase base)] →
      Tells m platform environ r
  | failed {base : BaseFolder} {e : Failure} : m.BelongsIn platform environ base →
      r.answer = .ok .failed → m.disk.RefusesCopy m.oldDatabase (m.newDatabase base) e →
      r.records = [failedRecord m.oldDatabase e] → Tells m platform environ r
  | quiet : r.answer ≠ .ok .copied → r.answer ≠ .ok .failed → r.records = [] →
      Tells m platform environ r

theorem tells_migrate (m : Machine) (platform : Option String) (environ : Option Environment) :
    m.Tells platform environ (m.migrate platform environ) := by
  have hm := m.migrates_migrateUnder FaultPlan.none platform environ
  rw [← migrate] at hm
  generalize m.migrate platform environ = r at hm
  cases hm with
  | offWindows | overridden | baseUnknown | newRefused | newExists | oldRefused | oldMissing =>
    exact .quiet (by simp) (by simp) rfl
  | @move base belongs hn ho =>
    rcases Disk.copy_opens ho hn with ⟨e, hr⟩ | ⟨s, hs, hnull, hw⟩ | ⟨s, t, hs, ht⟩
    · rw [moveDatabase_of_refusesCopy hr]
      exact .failed belongs rfl hr rfl
    · rw [moveDatabase_of_nullCharacter (Disk.openToRead_eq_ok_iff_reaches.mpr hs) hw]
      exact .quiet (by simp) (by simp) rfl
    · have hmoves := copied_of_reaches belongs hs ht
      rw [← migrateUnder_eq_moveDatabase belongs hn ho, ← migrate, hmoves.migrate_eq]
      exact .copied belongs rfl rfl

/-- The environment of the machine plays no part in a migration that is given one. -/
theorem migrate_of_given {e : Environment} (h : environ ≠ none) :
    ({ m with environment := e } : Machine).migrate platform environ =
      m.migrate platform environ := by
  obtain ⟨given, rfl⟩ := Option.ne_none_iff_exists'.mp h
  rw [migrate, migrate]
  apply migrateUnder_congr
  · rfl
  · rfl
  · rfl
  · exact baseFolder_congr rfl rfl
  · rfl
  · rfl

/-- The outcome of a migration is decided by the platform, the override, and where the two paths of
the database lead: unless the migration breaks, it has the outcome that they call for. A copy logs
one record for information, and one that has failed a warning with what the system says of the old
database, if that cannot be opened, or else of the new one; each is in the log where the threshold
lets it through, and nothing else is. A migration that is given an environment does not look at that
of the machine. -/
theorem paths_decide_outcome (m : Machine) (platform : Option String)
    (environ : Option Environment) :
    let r := (Operation.migrate platform environ).perform m
    (∀ o, r.answer = .ok (.outcome o) ↔
      m.CallsFor platform environ o ∧ ∀ e, ¬m.Breaks platform environ e) ∧
    (∀ e, r.answer = .error e ↔ m.Breaks platform environ e) ∧
    (r.answer = .ok (.outcome .copied) → ∃ base, m.BelongsIn platform environ base ∧
      r.records = m.threshold.visible [migratedRecord m.oldDatabase (m.newDatabase base)] ∧
      (m.threshold.rank ≤ Severity.info.rank →
        r.records = [migratedRecord m.oldDatabase (m.newDatabase base)]) ∧
      (Severity.info.rank < m.threshold.rank → r.records = [])) ∧
    (r.answer = .ok (.outcome .failed) → ∃ base e, m.BelongsIn platform environ base ∧
      m.disk.RefusesCopy m.oldDatabase (m.newDatabase base) e ∧
      r.records = m.threshold.visible [failedRecord m.oldDatabase e] ∧
      (m.threshold.rank ≤ Severity.warning.rank → r.records = [failedRecord m.oldDatabase e]) ∧
      (Severity.warning.rank < m.threshold.rank → r.records = [])) ∧
    (r.answer ≠ .ok (.outcome .copied) → r.answer ≠ .ok (.outcome .failed) → r.records = []) ∧
    (environ ≠ none → ∀ e, ({ m with environment := e } : Machine).migrate platform environ =
      m.migrate platform environ) := by
  intro r
  have hanswer : r.answer = (m.migrate platform environ).answer.map .outcome := rfl
  have hrecords : r.records = m.threshold.visible (m.migrate platform environ).records := rfl
  have houtcome : ∀ o, r.answer = .ok (.outcome o) ↔ (m.migrate platform environ).answer = .ok o :=
    fun o => by rw [hanswer, map_eq_ok_iff fun _ _ => Answer.outcome.inj]
  refine ⟨fun o => ?_, fun e => ?_, fun hc => ?_, fun hf => ?_, fun hc hf => ?_, fun hg e => ?_⟩
  · rw [houtcome, migrate_eq_ok_iff]
  · rw [hanswer, map_eq_error_iff, migrate, migrateUnder_eq_error_iff]
  · rw [houtcome] at hc
    cases m.tells_migrate platform environ with
    | copied belongs _ hr =>
      rw [hr] at hrecords
      exact ⟨_, belongs, hrecords, fun hle => hrecords.trans (Severity.visible_of_le hle),
        fun hlt => hrecords.trans (Severity.visible_of_lt hlt)⟩
    | failed _ hf => cases hc.symm.trans hf
    | quiet hne => exact absurd hc hne
  · rw [houtcome] at hf
    cases m.tells_migrate platform environ with
    | copied _ hc => cases hf.symm.trans hc
    | failed belongs _ he hr =>
      rw [hr] at hrecords
      exact ⟨_, _, belongs, he, hrecords, fun hle => hrecords.trans (Severity.visible_of_le hle),
        fun hlt => hrecords.trans (Severity.visible_of_lt hlt)⟩
    | quiet _ hne => exact absurd hf hne
  · rw [Ne, houtcome] at hc hf
    cases m.tells_migrate platform environ with
    | copied _ h => exact absurd h hc
    | failed _ h => exact absurd h hf
    | quiet _ _ hr => rw [hrecords, hr, Severity.visible, List.filter_nil]
  · exact migrate_of_given hg

/-- The machine with another target in the link at the new place of the database. -/
def linkingTo (m : Machine) (target : String) : Machine :=
  { m with disk := m.disk.put ["bin", "x-ui.db"] (.link target) }

/-- An outdated machine, but for a slash after the target of its link. -/
def slashed : Machine := outdated.linkingTo "../data.db/"

/-- On an outdated machine the migration copies, and at a threshold for information tells of it.
With that slash the new place cannot be written, of which a threshold for warnings tells too. -/
theorem paths_decide_outcome_outdated :
    (outdated.migrate none none).answer = .ok .copied ∧ outdated.CallsFor none none .copied ∧
      (∃ base, ((Operation.migrate none (some {})).perform
          { outdated with threshold := .info }).records =
        [migratedRecord "old/x-ui.db" (outdated.newDatabase base)]) ∧
      ((Operation.migrate none none).perform outdated).records = [] ∧
      (slashed.migrate none none).answer = .ok .failed ∧
      ∃ base e, slashed.disk.RefusesCopy outdated.oldDatabase (slashed.newDatabase base) e ∧
        ((Operation.migrate none none).perform slashed).records =
          [failedRecord outdated.oldDatabase e] := by
  have hcopied : (outdated.migrate none none).answer = .ok .copied := migrate_outdated
  have hgiven : (({ outdated with threshold := .info } : Machine).migrate none (some {})).answer =
      .ok .copied := by decide +kernel
  have hold : outdated.oldDatabase = "old/x-ui.db" := by decide +kernel
  have hfailed : (slashed.migrate none none).answer = .ok .failed := by decide +kernel
  obtain ⟨houtcome, -, hhidden, -⟩ := paths_decide_outcome outdated none none
  obtain ⟨-, -, hcopy, -⟩ :=
    paths_decide_outcome { outdated with threshold := .info } none (some {})
  obtain ⟨-, -, -, hfail, -⟩ := paths_decide_outcome slashed none none
  have hanswer := congrArg (·.map Answer.outcome) hcopied
  obtain ⟨-, -, -, -, hnothing⟩ := hhidden hanswer
  obtain ⟨base, -, -, htold, -⟩ := hcopy (congrArg (·.map Answer.outcome) hgiven)
  obtain ⟨base', e, -, hrefused, -, hwarned, -⟩ := hfail (congrArg (·.map Answer.outcome) hfailed)
  refine ⟨hcopied, ((houtcome _).mp hanswer).1, ⟨base, ?_⟩, hnothing (by decide), hfailed, base', e,
    hrefused, hwarned (by decide)⟩
  rw [← hold]
  exact htold (by decide)

end PanelConfig.Machine
