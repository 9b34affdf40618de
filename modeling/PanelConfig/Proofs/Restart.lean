import PanelConfig.Proofs.Session
import PanelConfig.Proofs.Startup

/-! Migrations that are made again on the machine which an earlier one has left, on their own or by
starts of the service. After a copy the database is found in its new place from then on; a
migration that has not copied has left no trace, so it goes the same way every time. -/

namespace PanelConfig

/-- How a later migration goes, by how the first one has gone on the disk `before`. -/
structure Migration.Settles (before : Disk) (first later : Migration) : Prop where
  afterCopy : first.answer = .ok .copied → later.answer = .ok .newExists ∧ later.disk = first.disk
  afterRest : first.answer ≠ .ok .copied →
    later.answer = first.answer ∧ later.disk = before ∧ first.disk = before

namespace Machine

/-- The machine with another disk. -/
def withDisk (m : Machine) (d : Disk) : Machine := { m with disk := d }

variable {m : Machine} {platform : Option String} {environ : Option Environment}
  {base : BaseFolder}

theorem withDisk_self (m : Machine) : m.withDisk m.disk = m := rfl

theorem BelongsIn.withDisk (h : m.BelongsIn platform environ base) (d : Disk) :
    (m.withDisk d).BelongsIn platform environ base where
  windows := h.windows
  notSet := h.notSet
  base_eq := (baseFolder_congr rfl rfl).trans h.base_eq

/-- A database that is in its new place is left alone, whatever the device would do. -/
theorem migrateUnder_of_hasEntry (h : m.BelongsIn platform environ base)
    (hn : m.disk.hasEntry (m.newDatabase base) = .ok true) (plan : FaultPlan) :
    m.migrateUnder plan platform environ = ⟨.ok .newExists, [], m.disk⟩ := by
  simp only [h.migrateUnder_eq, hn]

/-- After a file is made in the new place of the database, every migration finds it there. -/
theorem Moves.migrateUnder_put {s t : Location} (h : m.Moves platform environ base s t)
    (bytes : List UInt8) (plan : FaultPlan) :
    (m.withDisk (m.disk.put t (.file bytes))).migrateUnder plan platform environ =
      ⟨.ok .newExists, [], m.disk.put t (.file bytes)⟩ := by
  have hread := Disk.openToRead_put_self h.absent h.copies.writes bytes
  exact migrateUnder_of_hasEntry (h.belongs.withDisk _) (Disk.hasEntry_of_openToRead hread) plan

theorem settles_migrate (m : Machine) (platform : Option String) (environ : Option Environment) :
    Migration.Settles m.disk (m.migrate platform environ)
      ((m.withDisk (m.migrate platform environ).disk).migrate platform environ) := by
  rcases m.migrate_cases platform environ with hs | ⟨base, s, t, hm⟩
  · constructor
    · intro h
      exact absurd h hs.answer_ne
    · intro _
      rw [hs.disk_eq, withDisk_self]
      exact ⟨rfl, hs.disk_eq, rfl⟩
  · have hlater := hm.migrateUnder_put (m.disk.bytesAt s) FaultPlan.none
    rw [← migrate] at hlater
    constructor
    · intro _
      rw [hm.migrate_eq, hlater]
      exact ⟨rfl, rfl⟩
    · intro h
      rw [hm.migrate_eq] at h
      exact absurd rfl h

end Machine

namespace Migration.Settles

variable {before : Disk} {first later : Migration}

theorem disk_eq (h : Settles before first later) : later.disk = first.disk := by
  by_cases hc : first.answer = .ok .copied
  · exact (h.afterCopy hc).2
  · obtain ⟨-, hlater, hfirst⟩ := h.afterRest hc
    rw [hlater, hfirst]

theorem ne_copied (h : Settles before first later) : later.answer ≠ .ok .copied := by
  by_cases hc : first.answer = .ok .copied
  · rw [(h.afterCopy hc).1]
    simp
  · rw [(h.afterRest hc).1]
    exact hc

end Migration.Settles

namespace Machine

variable {m : Machine} {platform : Option String} {environ : Option Environment}

theorem after_of_fixed {ops : List Operation} (h : ∀ op ∈ ops, (op.perform m).machine = m) :
    m.after ops = m := by
  induction ops with
  | nil => rfl
  | cons op ops ih =>
    rw [after_cons, h op List.mem_cons_self]
    exact ih fun o ho => h o (List.mem_cons_of_mem _ ho)

theorem machine_perform_migrate (m : Machine) (platform : Option String)
    (environ : Option Environment) :
    ((Operation.migrate platform environ).perform m).machine =
      m.withDisk (m.migrate platform environ).disk := rfl

theorem machine_perform_runService (m : Machine) (requests : List Service.Request) :
    ((Operation.runService requests).perform m).machine = m.started :=
  machine_runService m requests

/-- The machine that any number of migrations leaves is that which the first one leaves. -/
theorem after_replicate_migrate (m : Machine) (platform : Option String)
    (environ : Option Environment) (k : Nat) :
    m.after (List.replicate (k + 1) (.migrate platform environ)) =
      m.withDisk (m.migrate platform environ).disk := by
  rw [List.replicate_succ, after_cons, machine_perform_migrate]
  apply after_of_fixed
  intro op hop
  rw [List.eq_of_mem_replicate hop, machine_perform_migrate,
    (m.settles_migrate platform environ).disk_eq]
  rfl

theorem openingMigration_started (m : Machine) :
    m.started.openingMigration =
      (m.withDisk m.openingMigration.disk).migrate (some m.platform) none := by
  rw [openingMigration, migrate, migrate]
  apply migrateUnder_congr
  · rfl
  · rfl
  · rfl
  · exact baseFolder_congr rfl rfl
  · rfl
  · rfl

theorem settles_openingMigration (m : Machine) :
    Migration.Settles m.disk m.openingMigration m.started.openingMigration := by
  rw [openingMigration_started]
  exact m.settles_migrate (some m.platform) none

theorem started_started (m : Machine) : m.started.started = m.started := by
  have hdisk := m.settles_openingMigration.disk_eq
  have hlevel : m.started.levelChoice = m.levelChoice := levelChoice_congr rfl rfl
  rw [started, hdisk, hlevel]
  rfl

/-- The machine that any number of starts leaves is that which the first one leaves. -/
theorem after_starts (m : Machine) (requests : List Service.Request)
    (starts : List (List Service.Request)) :
    m.after ((requests :: starts).map .runService) = m.started := by
  rw [List.map_cons, after_cons, machine_perform_runService]
  apply after_of_fixed
  intro op hop
  obtain ⟨later, -, rfl⟩ := List.mem_map.mp hop
  rw [machine_perform_runService, started_started]

/-- A migration takes effect once. Of migrations that follow one another, and of starts of the
service, every later one finds the database in its new place and leaves the disk alone if the first
has copied it, and goes as the first went, on a disk that never changes, if the first has not. No
later one copies. -/
theorem migration_takes_effect_once (m : Machine) :
    (∀ (platform : Option String) (environ : Option Environment) (n i : Nat) (r : Report),
      (m.session (List.replicate n (.migrate platform environ)))[i]? = some r → 0 < i →
      ∃ later, Migration.Settles m.disk (m.migrate platform environ) later ∧
        later.answer ≠ .ok .copied ∧ r.answer = later.answer.map .outcome ∧
        r.machine.disk = later.disk) ∧
    ∀ (starts : List (List Service.Request)) (i : Nat) (r : Report),
      (m.session (starts.map .runService))[i]? = some r → 0 < i →
      ∃ later, Migration.Settles m.disk m.openingMigration later ∧ later.answer ≠ .ok .copied ∧
        later = (m.after ((starts.take i).map .runService)).openingMigration ∧
        r.machine.disk = later.disk ∧ (∀ e, later.answer = .error e → r.answer = .error e) := by
  constructor
  · intro platform environ n i r hr hi
    obtain ⟨k, rfl⟩ : ∃ k, i = k + 1 := ⟨i - 1, by omega⟩
    rw [session_getElem?, List.getElem?_replicate] at hr
    split at hr
    · next hlt =>
      rw [List.take_replicate, Nat.min_eq_left (Nat.le_of_lt hlt), after_replicate_migrate] at hr
      cases hr
      have hsettles := m.settles_migrate platform environ
      exact ⟨_, hsettles, hsettles.ne_copied, rfl, rfl⟩
    · cases hr
  · intro starts i r hr hi
    obtain ⟨k, rfl⟩ : ∃ k, i = k + 1 := ⟨i - 1, by omega⟩
    cases starts with
    | nil => cases hr
    | cons first rest =>
      rw [session_getElem?, ← List.map_take, List.take_succ_cons, after_starts] at hr
      obtain ⟨op, hop, rfl⟩ := Option.map_eq_some_iff.mp hr
      rw [List.getElem?_map] at hop
      obtain ⟨requests, -, rfl⟩ := Option.map_eq_some_iff.mp hop
      have hsettles := m.settles_openingMigration
      refine ⟨_, hsettles, hsettles.ne_copied, ?_, ?_, ?_⟩
      · rw [List.take_succ_cons, after_starts]
      · rw [machine_perform_runService]
        rfl
      · intro e he
        show (m.started.runService requests).answer.map _ = _
        rw [runService_of_error he]
        rfl

/-- The machine with incomplete settings of a database on a MySQL server. -/
def withoutServer (m : Machine) : Machine :=
  { m with environment := m.environment.set Setting.connection.variableName "mysql" }

/-- Three starts of the service on an outdated machine, each of which ends for want of settings: the
first has copied the database before, and the third finds it. -/
theorem migration_takes_effect_once_outdated :
    outdated.withoutServer.openingMigration.answer = .ok .copied ∧
      (outdated.withoutServer.runService []).answer = .error (.exit 1) ∧
      ∃ r later, (outdated.withoutServer.session ([[], [], []].map .runService))[2]? = some r ∧
        Migration.Settles outdated.withoutServer.disk outdated.withoutServer.openingMigration
          later ∧
        later.answer = .ok .newExists ∧ r.machine.disk = later.disk := by
  have hcopied : outdated.withoutServer.openingMigration.answer = .ok .copied := by decide +kernel
  have hr : (outdated.withoutServer.session ([[], [], []].map .runService))[2]? = some _ := rfl
  obtain ⟨later, hsettles, -, -, hdisk, -⟩ :=
    (migration_takes_effect_once outdated.withoutServer).2 [[], [], []] 2 _ hr (by decide)
  exact ⟨hcopied, by decide +kernel, _, later, hr, hsettles, (hsettles.afterCopy hcopied).1, hdisk⟩

end Machine

end PanelConfig
