import PanelConfig.Proofs.Endings
import PanelConfig.Proofs.SideBySide

/-! Where the folder for databases is fixed, by the platform or by its variable, the surroundings of
the panel do not matter: neither the executable, nor the working folder, nor the disk. Two machines
that differ in those alone give the same reports in every session, and neither disk is changed. -/

namespace PanelConfig

/-- The machines agree on all but the executable, the working folder and the disk. -/
structure Machine.SameButSurroundings (m₁ m₂ : Machine) : Prop where
  environment : m₁.environment = m₂.environment
  platform : m₁.platform = m₂.platform
  shippedName : m₁.shippedName = m₂.shippedName
  shippedVersion : m₁.shippedVersion = m₂.shippedVersion
  legacyFolder : m₁.legacyFolder = m₂.legacyFolder
  threshold : m₁.threshold = m₂.threshold

/-- The operation reads the configuration, migrates the database, or runs the command line or the
service. -/
def Operation.isOfPanel : Operation → Bool
  | .describe _ | .getDatabaseFolder _ | .getDatabasePath _ | .getLogFolder _ | .migrate none none
  | .commandLine _ | .request _ | .runService _ => true
  | _ => false

/-- The platform for which an operation is told to find the folder for databases. -/
def Operation.toldPlatform? : Operation → Option String
  | .describe platform | .getDatabaseFolder platform | .getDatabasePath platform => platform
  | _ => none

/-! What is read while the folder for databases is fixed. -/

/-- The surroundings of the machine play no part in this part of it. -/
def Part.IsFixed (m : Machine) : Part → Prop
  | .databaseFolder platform | .migration platform none => m.HasFixedFolder platform
  | .openingMigration => m.HasFixedFolder none
  | p => p.isOfSurroundings = false

/-- The operation leaves the surroundings alone, and they play no part in what it reads. -/
structure Operation.IsFixed (m : Machine) (op : Operation) : Prop where
  inside : op.isFromOutside = false
  reads : ∀ p ∈ op.reads, p.IsFixed m

theorem Part.isFixed_ofReport {m : Machine} {platform : Option String}
    (h : m.HasFixedFolder platform) : ∀ p ∈ Part.ofReport platform, p.IsFixed m := by
  simp only [ofReport, List.forall_mem_cons]
  exact ⟨rfl, rfl, rfl, rfl, rfl, rfl, h, rfl, List.forall_mem_nil _⟩

namespace Machine.SameButSurroundings

variable {m₁ m₂ : Machine} {platform : Option String}

theorem installation (h : m₁.SameButSurroundings m₂) : m₁.SameInstallation m₂ := { h with }

theorem hasFixedFolder (h : m₁.SameButSurroundings m₂) (hf : m₁.HasFixedFolder platform) :
    m₂.HasFixedFolder platform := by
  rwa [Machine.HasFixedFolder, ← isWindows_congr h.platform, ← h.environment]

/-- The folder is the same on both machines, and nothing is migrated on either. -/
theorem same (h : m₁.SameButSurroundings m₂) {p : Part} (hp : p.IsFixed m₁) : p.Same m₁ m₂ := by
  have hwindows := isWindows_congr h.platform
  cases p with
  | databaseFolder platform =>
    have hf : m₁.HasFixedFolder platform := hp
    simp only [Part.Same, hf.databaseFolder, (h.hasFixedFolder hf).databaseFolder, h.environment,
      h.legacyFolder]
  | migration platform environ =>
    cases environ with
    | some e => cases hp
    | none =>
      have hf : m₁.HasFixedFolder platform := hp
      simp only [Part.Same, hf.migrate, (h.hasFixedFolder hf).migrate, hwindows]
      exact ⟨rfl, rfl, id⟩
  | openingMigration =>
    have hf : m₁.HasFixedFolder none := hp
    simp only [Part.Same, hf.openingMigration, (h.hasFixedFolder hf).openingMigration, hwindows]
    exact ⟨rfl, rfl, id⟩
  | baseFolder | disk => cases hp
  | _ =>
    exact Part.same_of_settings h.installation (fun hs => nomatch hs)
      fun _ _ => by rw [h.environment]

theorem isFixed (h : m₁.SameButSurroundings m₂) {op : Operation} (hop : op.IsFixed m₁) :
    op.IsFixed m₂ := by
  refine ⟨hop.inside, fun p hp => ?_⟩
  have hfixed := hop.reads p hp
  cases p with
  | databaseFolder platform => exact h.hasFixedFolder hfixed
  | migration platform environ =>
    cases environ with
    | some e => cases hfixed
    | none => exact h.hasFixedFolder hfixed
  | openingMigration => exact h.hasFixedFolder hfixed
  | _ => exact hfixed

end Machine.SameButSurroundings

theorem Machine.lasts_sameButSurroundings : Machine.Lasts SameButSurroundings where
  threshold h := h.threshold
  withDisks h _ := { h with }
  withLevel h _ := { h with threshold := rfl }
  set h _ v := { h with environment := by rw [h.environment] }

namespace CommandLine

variable {m : Machine}

theorem databaseFolder_perform (h : m.environment.value .databaseFolder ≠ "") (args : List String) :
    (perform m args).2.value .databaseFolder ≠ "" := by
  have hset : (m.environment.find? "XUI_DB_FOLDER").getD "" ≠ "" := h
  obtain ⟨way, hway⟩ := exists_fits_perform m args
  cases way with
  | served =>
    obtain ⟨o, -, -, -, -, hafter⟩ := hway
    rw [hafter, Environment.value, find?_exported]
    by_cases hfolder : o.databaseFolder = ""
    · simpa [Setting.variableName, hfolder] using hset
    · simp [Setting.variableName, hfolder]
  | printed =>
    obtain ⟨-, -, hafter⟩ := hway
    rwa [hafter]
  | refused =>
    obtain ⟨-, -, hafter, -⟩ := hway
    rwa [hafter]
  | misused =>
    obtain ⟨-, -, hafter, -⟩ := hway
    rwa [hafter]
  | brokenOff =>
    obtain ⟨o, -, -, -, hfind⟩ | ⟨e, -, -, -, hafter⟩ := hway
    · rw [Environment.value, hfind]
      simpa [Setting.variableName] using hset
    · rwa [hafter]

end CommandLine

namespace Operation

variable {m m₁ m₂ : Machine} {op : Operation}

/-- An operation leaves the disk alone, and the folder for databases fixed. -/
theorem machine_perform (h : m.HasFixedFolder none) (hop : op.IsFixed m) :
    (op.perform m).machine.disk = m.disk ∧ (op.perform m).machine.HasFixedFolder none := by
  cases op with
  | change | unset => cases hop.inside
  | copyFile | takeAway => cases hop.reads _ List.mem_cons_self
  | migrate platform environ =>
    cases environ with
    | some e => cases hop.reads _ List.mem_cons_self
    | none =>
      have hf : m.HasFixedFolder platform := hop.reads _ List.mem_cons_self
      have hdisk : (m.migrate platform none).disk = m.disk := by rw [hf.migrate]
      exact ⟨hdisk, h⟩
  | commandLine args =>
    -- the one operation that sets variables
    refine ⟨rfl, ?_⟩
    rcases h with hplatform | hset
    · exact .inl hplatform
    · exact .inr (CommandLine.databaseFolder_perform hset args)
  | runService requests =>
    have hdisk : m.openingMigration.disk = m.disk := by rw [h.openingMigration]
    simp only [perform, emit, Machine.machine_runService]
    exact ⟨hdisk, h.started⟩
  | _ => exact ⟨rfl, h⟩

theorem perform_sameButSurroundings (h : m₁.SameButSurroundings m₂) (hop : op.IsFixed m₁) :
    (op.perform m₁).Alike Machine.SameButSurroundings (op.perform m₂) := by
  apply perform_alike Machine.lasts_sameButSurroundings h fun p hp => h.same (hop.reads p hp)
  intro hout
  rw [hop.inside] at hout
  cases hout

end Operation

namespace Machine

variable {m m₁ m₂ : Machine} {ops : List Operation}

/-- The surroundings play no part in any operation of a session, at the point where it is
performed. -/
def IsFixedFor (m : Machine) (ops : List Operation) : Prop :=
  ∀ (i : Nat) (op : Operation), ops[i]? = some op → op.IsFixed (m.after (ops.take i))

theorem IsFixedFor.head {op : Operation} (h : m.IsFixedFor (op :: ops)) : op.IsFixed m := h 0 op rfl

theorem IsFixedFor.tail {op : Operation} (h : m.IsFixedFor (op :: ops)) :
    (op.perform m).machine.IsFixedFor ops := fun i op ho => h (i + 1) op ho

/-- No operation of a session is told to find the folder for a Windows while the folder is not
set. -/
def SetsFolderForWindows (m : Machine) (ops : List Operation) : Prop :=
  ∀ (i : Nat) (op : Operation) (platform : String), ops[i]? = some op →
    op.toldPlatform? = some platform → "win".toList <+: platform.toList →
    (m.after (ops.take i)).environment.value .databaseFolder ≠ ""

theorem HasFixedFolder.told {platform : Option String} (hf : m.HasFixedFolder none)
    (h : ∀ p, platform = some p → "win".toList <+: p.toList →
      m.environment.value .databaseFolder ≠ "") : m.HasFixedFolder platform := by
  cases platform with
  | none => exact hf
  | some p =>
    by_cases hwindows : "win".toList <+: p.toList
    · exact .inr (h p rfl hwindows)
    · by_cases hp : p = ""
      · -- an empty platform stands for that of the machine
        subst hp
        exact hf
      · left
        rw [isWindows, platformOr, Option.getD_some, orElse, if_neg hp, Bool.eq_false_iff]
        exact fun hw => hwindows (List.isPrefixOf_iff_prefix.mp hw)

theorem HasFixedFolder.operation (hf : m.HasFixedFolder none) {op : Operation}
    (hop : op.isOfPanel = true)
    (h : ∀ p, op.toldPlatform? = some p → "win".toList <+: p.toList →
      m.environment.value .databaseFolder ≠ "") : op.IsFixed m := by
  cases op with
  | describe => exact ⟨rfl, Part.isFixed_ofReport (hf.told h)⟩
  | getDatabaseFolder => exact ⟨rfl, List.forall_mem_singleton.mpr (hf.told h)⟩
  | getDatabasePath platform =>
    refine ⟨rfl, ?_⟩
    simp only [Operation.reads, List.forall_mem_cons]
    exact ⟨rfl, hf.told h, rfl, List.forall_mem_nil _⟩
  | getLogFolder => exact ⟨rfl, List.forall_mem_singleton.mpr rfl⟩
  | migrate platform environ =>
    cases environ with
    | some e => cases platform <;> cases hop
    | none =>
      cases platform with
      | none => exact ⟨rfl, List.forall_mem_singleton.mpr hf⟩
      | some p => cases hop
  | commandLine | request => exact ⟨rfl, Part.isFixed_ofReport hf⟩
  | runService => exact ⟨rfl, List.forall_mem_cons.mpr ⟨hf, Part.isFixed_ofReport hf⟩⟩
  | _ => cases hop

theorem isFixedFor (hf : m.HasFixedFolder none) (hops : ∀ op ∈ ops, op.isOfPanel = true)
    (h : m.SetsFolderForWindows ops) : m.IsFixedFor ops := by
  induction ops generalizing m with
  | nil =>
    intro i op ho
    cases ho
  | cons op ops ih =>
    -- the operation leaves the folder fixed, with which the induction goes on
    have hop := hf.operation (hops op List.mem_cons_self) fun p => h 0 op p rfl
    have hnext := (Operation.machine_perform hf hop).2
    intro i later hlater
    cases i with
    | zero =>
      cases hlater
      exact hop
    | succ i =>
      exact ih hnext (fun o ho => hops o (List.mem_cons_of_mem _ ho))
        (fun i o p ho => h (i + 1) o p ho) i later hlater

theorem after_take (hf : m.HasFixedFolder none) (hops : m.IsFixedFor ops) (i : Nat) :
    (m.after (ops.take i)).disk = m.disk ∧ (m.after (ops.take i)).HasFixedFolder none := by
  induction ops generalizing m i with
  | nil => simpa using hf
  | cons op ops ih =>
    cases i with
    | zero => exact ⟨rfl, hf⟩
    | succ i =>
      obtain ⟨hdisk, hnext⟩ := Operation.machine_perform hf hops.head
      rw [List.take_succ_cons, after_cons, ← hdisk]
      exact ih hnext hops.tail i

namespace SameButSurroundings

theorem session (h : m₁.SameButSurroundings m₂) (hops : m₁.IsFixedFor ops) :
    List.Forall₂ (Report.Alike SameButSurroundings) (m₁.session ops) (m₂.session ops) ∧
      ∀ i, (m₁.after (ops.take i)).SameButSurroundings (m₂.after (ops.take i)) :=
  session_alike_at (fun i op ho hi => Operation.perform_sameButSurroundings hi (hops i op ho)) h

theorem isFixedFor (h : m₁.SameButSurroundings m₂) (hops : m₁.IsFixedFor ops) : m₂.IsFixedFor ops :=
  fun i op ho => ((h.session hops).2 i).isFixed (hops i op ho)

end SameButSurroundings

/-- A migration of the platform of the machine, on its own or at a start of the service, ends
before it looks at the disk. -/
structure SkipsMigration (m : Machine) : Prop where
  migrate : (m.migrate none none).answer = .ok .skippedPlatform ∨
    (m.migrate none none).answer = .ok .skippedOverride
  openingMigration : m.openingMigration = m.migrate none none

theorem HasFixedFolder.skipsMigration (h : m.HasFixedFolder none) : m.SkipsMigration := by
  constructor
  · rw [h.migrate]
    cases m.isWindows none with
    | false => exact .inl rfl
    | true => exact .inr rfl
  · rw [h.migrate, h.openingMigration]

/-- Where the folder for databases is fixed, the executable, the working folder and the disk do not
matter. Two machines that differ in those alone, off Windows or with the folder set, give the same
reports in every session in which no operation is told to find the folder for a Windows while the
folder is not set. At every point of it the disks are what they were, and a migration skips. -/
theorem surroundings_do_not_matter (h : m₁.SameButSurroundings m₂) (hf : m₁.HasFixedFolder none)
    (hops : ∀ op ∈ ops, op.isOfPanel = true) (htold : m₁.SetsFolderForWindows ops) :
    List.Forall₂ (Report.Alike SameButSurroundings) (m₁.session ops) (m₂.session ops) ∧
    ∀ i, ((m₁.after (ops.take i)).disk = m₁.disk ∧ (m₁.after (ops.take i)).SkipsMigration) ∧
      (m₂.after (ops.take i)).disk = m₂.disk ∧ (m₂.after (ops.take i)).SkipsMigration := by
  have hops₁ := isFixedFor hf hops htold
  refine ⟨(h.session hops₁).1, fun i => ?_⟩
  obtain ⟨hdisk₁, hfixed₁⟩ := after_take hf hops₁ i
  obtain ⟨hdisk₂, hfixed₂⟩ := after_take (h.hasFixedFolder hf) (h.isFixedFor hops₁) i
  exact ⟨⟨hdisk₁, hfixed₁.skipsMigration⟩, hdisk₂, hfixed₂.skipsMigration⟩

/-- The machine with another executable, another disk, and no working folder. -/
def relocated (m : Machine) : Machine :=
  { m with
    executable := some "/opt/x-ui/x-ui"
    workingFolder := .failed .broken "lost"
    disk := outdated.disk }

theorem sameButSurroundings_relocated (m : Machine) : m.SameButSurroundings m.relocated :=
  ⟨rfl, rfl, rfl, rfl, rfl, rfl⟩

/-- A session off Windows that asks for the folder on Windows once it is set. -/
def unmovedSession : List Operation :=
  [.describe none, .commandLine ["run", "--db-folder", "/data"], .getDatabaseFolder (some "win32"),
    .migrate none none, .runService [⟨"GET", "/config"⟩], .request ⟨"GET", "/config"⟩]

theorem surroundings_do_not_matter_relocated :
    fresh.SameButSurroundings fresh.relocated ∧ fresh.HasFixedFolder none ∧
      (∀ op ∈ unmovedSession, op.isOfPanel = true) ∧ fresh.SetsFolderForWindows unmovedSession ∧
      List.Forall₂ (Report.Alike SameButSurroundings) (fresh.session unmovedSession)
        (fresh.relocated.session unmovedSession) ∧
      (fresh.relocated.after unmovedSession).disk = outdated.disk := by
  have h := sameButSurroundings_relocated fresh
  have hf : fresh.HasFixedFolder none := .inl (by decide +kernel)
  have hops : ∀ op ∈ unmovedSession, op.isOfPanel = true := by decide
  have htold : fresh.SetsFolderForWindows unmovedSession := by
    intro i op platform hop hplatform _
    match i with
    | 0 | 1 | 3 | 4 | 5 =>
      cases hop
      cases hplatform
    | 2 => decide +kernel
    | i + 6 => cases hop
  obtain ⟨hsame, hpoints⟩ := surroundings_do_not_matter h hf hops htold
  exact ⟨h, hf, hops, htold, hsame, (hpoints unmovedSession.length).2.1⟩

/-- Off Windows, an operation that is told to find the folder for a Windows does look at the
executable. -/
theorem told_windows_reads_executable :
    fresh.SameButSurroundings fresh.relocated ∧ fresh.isWindows none = false ∧
      (Operation.getDatabaseFolder (some "win32")).isOfPanel = true ∧
      ((Operation.getDatabaseFolder (some "win32")).perform fresh).answer =
        .ok (.text "/usr/local/x-ui") ∧
      ((Operation.getDatabaseFolder (some "win32")).perform fresh.relocated).answer =
        .ok (.text "/opt/x-ui") := by
  have hfolder : fresh.databaseFolder (some "win32") = .ok "/usr/local/x-ui" := by decide +kernel
  have hother : fresh.relocated.databaseFolder (some "win32") = .ok "/opt/x-ui" := by
    decide +kernel
  exact ⟨sameButSurroundings_relocated fresh, by decide +kernel, rfl,
    congrArg (·.map Answer.text) hfolder, congrArg (·.map Answer.text) hother⟩

end Machine

end PanelConfig
