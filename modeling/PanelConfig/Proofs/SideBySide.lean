import Mathlib.Data.List.Forall2
import PanelConfig.Proofs.CommandLine
import PanelConfig.Proofs.Service
import PanelConfig.Proofs.Session

/-! Two machines side by side. Each operation reads certain parts of a machine, and each part is
read from certain settings and from what lies outside of the environment. Main statements: where the
parts that an operation reads are the same on both machines, it reports the same; and what the
machines have in common lasts from one operation to the next, and so through a session. -/

namespace PanelConfig

namespace Machine

/-- The same panel is installed on the same platform. -/
structure SameInstallation (m₁ m₂ : Machine) : Prop where
  platform : m₁.platform = m₂.platform
  shippedName : m₁.shippedName = m₂.shippedName
  shippedVersion : m₁.shippedVersion = m₂.shippedVersion
  legacyFolder : m₁.legacyFolder = m₂.legacyFolder

/-- The panel runs from the same executable, in the same working folder and with the same disk. -/
structure SameSurroundings (m₁ m₂ : Machine) : Prop where
  executable : m₁.executable = m₂.executable
  workingFolder : m₁.workingFolder = m₂.workingFolder
  disk : m₁.disk = m₂.disk

variable {m₁ m₂ : Machine}

theorem SameInstallation.changed (h : m₁.SameInstallation m₂) (c : MachineChange) :
    (m₁.changed c).SameInstallation (m₂.changed c) where
  platform := by rw [Machine.changed, Machine.changed, h.platform]
  shippedName := by rw [Machine.changed, Machine.changed, h.shippedName]
  shippedVersion := by rw [Machine.changed, Machine.changed, h.shippedVersion]
  legacyFolder := by rw [Machine.changed, Machine.changed, h.legacyFolder]

theorem SameSurroundings.changed (h : m₁.SameSurroundings m₂) (c : MachineChange) :
    (m₁.changed c).SameSurroundings (m₂.changed c) where
  executable := by rw [Machine.changed, Machine.changed, h.executable]
  workingFolder := by rw [Machine.changed, Machine.changed, h.workingFolder]
  disk := by rw [Machine.changed, Machine.changed, h.disk]

theorem SameSurroundings.baseFolder (h : m₁.SameSurroundings m₂) :
    m₁.baseFolder = m₂.baseFolder :=
  baseFolder_congr h.executable h.workingFolder

/-- The environments that are given to the migrations may differ but for the folder that is set. -/
theorem SameSurroundings.migrate (hs : m₁.SameSurroundings m₂) (h : m₁.SameInstallation m₂)
    (platform : Option String) {environ₁ environ₂ : Option Environment}
    (hf : (environ₁.getD m₁.environment).value .databaseFolder =
      (environ₂.getD m₂.environment).value .databaseFolder) :
    m₁.migrate platform environ₁ = m₂.migrate platform environ₂ :=
  migrateUnder_congr (name_congr h.shippedName) h.legacyFolder h.platform hs.baseFolder hs.disk hf
    FaultPlan.none platform

theorem SameSurroundings.openingMigration (hs : m₁.SameSurroundings m₂)
    (h : m₁.SameInstallation m₂)
    (hf : m₁.environment.value .databaseFolder = m₂.environment.value .databaseFolder) :
    m₁.openingMigration = m₂.openingMigration := by
  rw [Machine.openingMigration, Machine.openingMigration, h.platform]
  exact hs.migrate h _ hf

end Machine

/-- The migrations tell the same, and leave the same disk if they find the same one. -/
structure Migration.Alike (d₁ d₂ : Disk) (r₁ r₂ : Migration) : Prop where
  answer : r₁.answer = r₂.answer
  records : r₁.records = r₂.records
  disk : d₁ = d₂ → r₁.disk = r₂.disk

theorem Migration.Alike.of_eq {d₁ d₂ : Disk} {r₁ r₂ : Migration} (h : r₁ = r₂) :
    r₁.Alike d₁ d₂ r₂ :=
  ⟨by rw [h], by rw [h], fun _ => by rw [h]⟩

/-! The parts of a machine. -/

/-- A part of a machine, as operations read it. -/
inductive Part where
  | name
  | version
  | isDebug
  | levelChoice
  | binFolder
  | isWindows (platform : Option String)
  | logFolder (platform : Option String)
  | baseFolder
  | databaseFolder (platform : Option String)
  | databaseSettings
  | toldDatabase
  | disk
  | migration (platform : Option String) (environ : Option Environment)
  | openingMigration

namespace Part

/-- The part is the same on both machines. -/
def Same (m₁ m₂ : Machine) : Part → Prop
  | .name => m₁.name = m₂.name
  | .version => m₁.version = m₂.version
  | .isDebug => m₁.isDebug = m₂.isDebug
  | .levelChoice => m₁.levelChoice = m₂.levelChoice
  | .binFolder => m₁.binFolder = m₂.binFolder
  | .isWindows platform => m₁.isWindows platform = m₂.isWindows platform
  | .logFolder platform => m₁.logFolder platform = m₂.logFolder platform
  | .baseFolder => m₁.baseFolder = m₂.baseFolder
  | .databaseFolder platform => m₁.databaseFolder platform = m₂.databaseFolder platform
  | .databaseSettings => m₁.databaseSettings = m₂.databaseSettings
  | .toldDatabase => m₁.toldDatabase = m₂.toldDatabase
  | .disk => m₁.disk = m₂.disk
  | .migration platform environ =>
    (m₁.migrate platform environ).Alike m₁.disk m₂.disk (m₂.migrate platform environ)
  | .openingMigration => m₁.openingMigration.Alike m₁.disk m₂.disk m₂.openingMigration

/-- The part may be read from the setting. -/
def takes : Part → Setting → Bool
  | .isDebug, .debug => true
  | .levelChoice, .debug | .levelChoice, .logLevel => true
  | .binFolder, .binFolder => true
  | .logFolder _, .logFolder => true
  | .databaseFolder _, .databaseFolder => true
  | .migration .., .databaseFolder | .openingMigration, .databaseFolder => true
  | .toldDatabase, .password => false
  | .toldDatabase, s | .databaseSettings, s => s.isOfDatabase
  | _, _ => false

/-- The part is read from the surroundings: the executable, the working folder or the disk. -/
def isOfSurroundings : Part → Bool
  | .baseFolder | .databaseFolder _ | .disk | .migration .. | .openingMigration => true
  | _ => false

/-- The parts that are in the report on the configuration. -/
def ofReport (platform : Option String) : List Part :=
  [.name, .version, .isDebug, .levelChoice, .binFolder, .logFolder platform,
    .databaseFolder platform, .toldDatabase]

variable {m₁ m₂ : Machine}

/-- A part is the same where all is that it is read from. -/
theorem same_of_settings {p : Part} (h : m₁.SameInstallation m₂)
    (hs : p.isOfSurroundings = true → m₁.SameSurroundings m₂)
    (hv : ∀ s, p.takes s = true → m₁.environment.value s = m₂.environment.value s) :
    p.Same m₁ m₂ := by
  cases p with
  | name => exact Machine.name_congr h.shippedName
  | version => exact Machine.version_congr h.shippedVersion
  | isDebug => exact Machine.isDebug_congr (hv .debug rfl)
  | levelChoice => exact Machine.levelChoice_congr (hv .debug rfl) (hv .logLevel rfl)
  | binFolder => exact Machine.binFolder_congr (hv .binFolder rfl)
  | isWindows platform => exact Machine.isWindows_congr h.platform platform
  | logFolder platform =>
    exact Machine.logFolder_congr (hv .logFolder rfl) h.platform platform
  | baseFolder => exact (hs rfl).baseFolder
  | databaseFolder platform =>
    exact Machine.databaseFolder_congr (hv .databaseFolder rfl) h.platform h.legacyFolder
      (hs rfl).baseFolder platform
  | databaseSettings => exact Machine.databaseSettings_congr hv
  | toldDatabase =>
    refine Machine.toldDatabase_congr fun s hd hp => hv s ?_
    cases s with
    | password => exact absurd rfl hp
    | _ => exact hd
  | disk => exact (hs rfl).disk
  | migration platform environ =>
    refine .of_eq ((hs rfl).migrate h platform ?_)
    cases environ with
    | none => exact hv .databaseFolder rfl
    | some e => rfl
  | openingMigration => exact .of_eq ((hs rfl).openingMigration h (hv .databaseFolder rfl))

theorem snapshot_eq {platform : Option String} (h : ∀ p ∈ ofReport platform, p.Same m₁ m₂) :
    m₁.snapshot platform = m₂.snapshot platform := by
  simp only [ofReport, List.forall_mem_cons] at h
  obtain ⟨hname, hversion, hdebug, hlevel, hbin, hlog, hfolder, htold, -⟩ := h
  exact Machine.snapshot_congr hname hversion htold hlevel hdebug hbin hfolder hlog

theorem answer_eq (h : ∀ p ∈ ofReport none, p.Same m₁ m₂) (r : Service.Request) :
    Service.answer m₁ r = Service.answer m₂ r := by
  have hname : m₁.name = m₂.name := h .name (by simp [ofReport])
  have hversion : m₁.version = m₂.version := h .version (by simp [ofReport])
  exact Service.answer_congr hname hversion (snapshot_eq h) r

theorem runService_eq (h : openingMigration.Same m₁ m₂) (hr : ∀ p ∈ ofReport none, p.Same m₁ m₂)
    (requests : List Service.Request) :
    (m₁.runService requests).answer = (m₂.runService requests).answer ∧
      (m₁.runService requests).records = (m₂.runService requests).records := by
  have hsnapshot := snapshot_eq hr
  simp only [ofReport, List.forall_mem_cons] at hr
  obtain ⟨hname, hversion, -, hlevel, hbin, hlog, hfolder, htold, -⟩ := hr
  exact Machine.runService_congr h.answer h.records hlevel hname hversion htold hbin hlog hfolder
    hsnapshot requests

end Part

/-! One operation. -/

/-- The reports tell the same, and leave machines that are related. -/
structure Report.Alike (R : Machine → Machine → Prop) (r₁ r₂ : Report) : Prop where
  answer : r₁.answer = r₂.answer
  records : r₁.records = r₂.records
  machine : R r₁.machine r₂.machine

/-- What machines have in common lasts where the same is done to both. -/
structure Machine.Lasts (R : Machine → Machine → Prop) : Prop where
  threshold {m₁ m₂ : Machine} : R m₁ m₂ → m₁.threshold = m₂.threshold
  withDisks {m₁ m₂ : Machine} {d₁ d₂ : Disk} : R m₁ m₂ → (m₁.disk = m₂.disk → d₁ = d₂) →
    R { m₁ with disk := d₁ } { m₂ with disk := d₂ }
  withLevel {m₁ m₂ : Machine} : R m₁ m₂ → ∀ c, R (m₁.withLevel c) (m₂.withLevel c)
  set {m₁ m₂ : Machine} {s : Setting} : R m₁ m₂ → s ∈ CommandLine.runSettings → ∀ v,
    R { m₁ with environment := m₁.environment.set s.variableName v }
      { m₂ with environment := m₂.environment.set s.variableName v }

namespace Operation

/-- The parts that an operation reads. -/
def reads : Operation → List Part
  | .getName => [.name]
  | .getVersion => [.version]
  | .isDebug => [.isDebug]
  | .getLogLevel => [.levelChoice]
  | .getBinFolder => [.binFolder]
  | .isWindows platform => [.isWindows platform]
  | .resolveBaseFolder => [.baseFolder]
  | .getDatabase | .requireDatabase => [.databaseSettings]
  | .getDatabaseFolder platform => [.databaseFolder platform]
  | .getDatabasePath platform => [.databaseSettings, .databaseFolder platform, .name]
  | .getLogFolder platform => [.logFolder platform]
  | .databaseFile _ => [.name]
  | .connectionText _ platform => [.databaseFolder platform, .name]
  | .migrate platform environ => [.migration platform environ]
  | .copyFile .. | .takeAway _ | .listDisk => [.disk]
  | .describe platform => Part.ofReport platform
  | .commandLine _ | .request _ => Part.ofReport none
  | .runService _ => .openingMigration :: Part.ofReport none
  | .isEphemeral _ | .severityOf _ | .setUpLog _ | .formatLines _ | .change _ | .unset _ => []

/-- The operation is a change of the machine from outside. -/
def isFromOutside : Operation → Bool
  | .change _ | .unset _ => true
  | _ => false

variable {m₁ m₂ : Machine} {op : Operation}

/-- Where the parts that an operation reads are the same, it answers the same and logs the same. -/
theorem emit_congr (h : ∀ p ∈ op.reads, p.Same m₁ m₂) :
    (op.emit m₁).answer = (op.emit m₂).answer ∧ (op.emit m₁).records = (op.emit m₂).records := by
  cases op with
  | getName =>
    have hname : m₁.name = m₂.name := h _ List.mem_cons_self
    exact ⟨by simp only [emit, reading, hname], rfl⟩
  | getVersion =>
    have hversion : m₁.version = m₂.version := h _ List.mem_cons_self
    exact ⟨by simp only [emit, reading, hversion], rfl⟩
  | isDebug =>
    have hdebug : m₁.isDebug = m₂.isDebug := h _ List.mem_cons_self
    exact ⟨by simp only [emit, reading, hdebug], rfl⟩
  | getLogLevel =>
    have hlevel : m₁.levelChoice = m₂.levelChoice := h _ List.mem_cons_self
    exact ⟨by simp only [emit, reading, hlevel], rfl⟩
  | getBinFolder =>
    have hbin : m₁.binFolder = m₂.binFolder := h _ List.mem_cons_self
    exact ⟨by simp only [emit, reading, hbin], rfl⟩
  | isWindows platform =>
    have hwindows : m₁.isWindows platform = m₂.isWindows platform := h _ List.mem_cons_self
    exact ⟨by simp only [emit, reading, hwindows], rfl⟩
  | resolveBaseFolder =>
    have hbase : m₁.baseFolder = m₂.baseFolder := h _ List.mem_cons_self
    exact ⟨by simp only [emit, trying, hbase], rfl⟩
  | getDatabase =>
    have hsettings : m₁.databaseSettings = m₂.databaseSettings := h _ List.mem_cons_self
    exact ⟨by simp only [emit, trying, hsettings], rfl⟩
  | requireDatabase =>
    have hsettings : m₁.databaseSettings = m₂.databaseSettings := h _ List.mem_cons_self
    simp only [emit, Machine.requiredDatabase, Machine.databaseRecords, hsettings, and_self]
  | getDatabaseFolder platform =>
    have hfolder : m₁.databaseFolder platform = m₂.databaseFolder platform :=
      h _ List.mem_cons_self
    exact ⟨by simp only [emit, trying, hfolder], rfl⟩
  | getDatabasePath platform =>
    simp only [reads, List.forall_mem_cons] at h
    obtain ⟨hsettings, hfolder, hname, -⟩ := h
    have hsettings : m₁.databaseSettings = m₂.databaseSettings := hsettings
    simp only [emit, Machine.databasePath, Machine.requiredDatabase, Machine.databaseRecords,
      hsettings, Machine.connectionText_congr hname hfolder, and_self]
  | getLogFolder platform =>
    have hlog : m₁.logFolder platform = m₂.logFolder platform := h _ List.mem_cons_self
    exact ⟨by simp only [emit, reading, hlog], rfl⟩
  | databaseFile folder =>
    have hname : m₁.name = m₂.name := h _ List.mem_cons_self
    exact ⟨by simp only [emit, reading, Machine.databaseFile_congr hname], rfl⟩
  | connectionText settings platform =>
    simp only [reads, List.forall_mem_cons] at h
    obtain ⟨hfolder, hname, -⟩ := h
    exact ⟨by simp only [emit, trying, Machine.connectionText_congr hname hfolder], rfl⟩
  | migrate platform environ =>
    have hmigration : (m₁.migrate platform environ).Alike m₁.disk m₂.disk
      (m₂.migrate platform environ) := h _ List.mem_cons_self
    simp only [emit, hmigration.answer, hmigration.records, and_self]
  | copyFile source target =>
    have hdisk : m₁.disk = m₂.disk := h _ List.mem_cons_self
    exact ⟨by simp only [emit, hdisk], rfl⟩
  | listDisk =>
    have hdisk : m₁.disk = m₂.disk := h _ List.mem_cons_self
    exact ⟨by simp only [emit, reading, hdisk], rfl⟩
  | describe platform => exact ⟨by simp only [emit, trying, Part.snapshot_eq h], rfl⟩
  | commandLine args =>
    have hname : m₁.name = m₂.name := h .name (by simp [reads, Part.ofReport])
    have hversion : m₁.version = m₂.version := h .version (by simp [reads, Part.ofReport])
    -- what the environments have in common plays no part in the end
    have hending := (CommandLine.perform_alike (R := fun _ _ => True) (fun _ _ _ _ _ _ => trivial)
      trivial hname hversion (Part.snapshot_eq h) args).1
    exact ⟨by simp only [emit, hending], rfl⟩
  | request r => simp only [emit, Part.answer_eq h, and_self]
  | runService requests =>
    obtain ⟨hmigration, hreport⟩ := List.forall_mem_cons.mp h
    obtain ⟨hanswer, hrecords⟩ := Part.runService_eq hmigration hreport requests
    exact ⟨by simp only [emit, hanswer], hrecords⟩
  | isEphemeral | severityOf | setUpLog | formatLines | change | unset | takeAway =>
    exact ⟨rfl, rfl⟩

variable {R : Machine → Machine → Prop}

/-- What the machines have in common is left to them by every operation that is not a change from
outside, where it reads the same on both. -/
theorem machine_emit (hR : Machine.Lasts R) (h : R m₁ m₂) (hreads : ∀ p ∈ op.reads, p.Same m₁ m₂)
    (hop : op.isFromOutside = false) : R (op.emit m₁).machine (op.emit m₂).machine := by
  cases op with
  | change | unset => cases hop
  | migrate platform environ =>
    have hmigration : (m₁.migrate platform environ).Alike m₁.disk m₂.disk
      (m₂.migrate platform environ) := hreads _ List.mem_cons_self
    simp only [emit]
    exact hR.withDisks h hmigration.disk
  | copyFile source target =>
    simp only [emit]
    exact hR.withDisks h fun hdisk => by rw [hdisk]
  | takeAway path =>
    simp only [emit, reading]
    exact hR.withDisks h fun hdisk => by rw [hdisk]
  | setUpLog choice =>
    simp only [emit]
    exact hR.withLevel h choice
  | commandLine args =>
    have hname : m₁.name = m₂.name := hreads .name (by simp [reads, Part.ofReport])
    have hversion : m₁.version = m₂.version := hreads .version (by simp [reads, Part.ofReport])
    have hkept : CommandLine.KeptByRun fun e₁ e₂ =>
        R { m₁ with environment := e₁ } { m₂ with environment := e₂ } :=
      fun s hs v _ _ he => hR.set he hs v
    simp only [emit]
    exact (CommandLine.perform_alike hkept h hname hversion (Part.snapshot_eq hreads) args).2
  | runService requests =>
    obtain ⟨hmigration, hreport⟩ := List.forall_mem_cons.mp hreads
    have hmigration : m₁.openingMigration.Alike m₁.disk m₂.disk m₂.openingMigration := hmigration
    have hlevel : m₁.levelChoice = m₂.levelChoice := hreport .levelChoice (by simp [Part.ofReport])
    simp only [emit, Machine.machine_runService, Machine.started, hlevel]
    exact hR.withDisks (hR.withLevel h _) hmigration.disk
  | _ =>
    simp only [emit, reading, trying]
    exact h

/-- One operation on two machines. A change from outside reads nothing, so what it leaves to them in
common is for the relation to say. -/
theorem perform_alike (hR : Machine.Lasts R) (h : R m₁ m₂) (hreads : ∀ p ∈ op.reads, p.Same m₁ m₂)
    (hop : op.isFromOutside = true → R (op.emit m₁).machine (op.emit m₂).machine) :
    (op.perform m₁).Alike R (op.perform m₂) := by
  have hmachine : R (op.emit m₁).machine (op.emit m₂).machine := by
    cases hout : op.isFromOutside with
    | true => exact hop hout
    | false => exact machine_emit hR h hreads hout
  obtain ⟨hanswer, hrecords⟩ := emit_congr hreads
  refine ⟨hanswer, ?_, hmachine⟩
  simp only [perform, hrecords, hR.threshold hmachine]

end Operation

/-! Machines that differ in their environments alone. -/

/-- What environments have in common lasts where the same is done to both. -/
structure Environment.Lasts (E : Environment → Environment → Prop) : Prop where
  set {e₁ e₂ : Environment} : E e₁ e₂ → ∀ name v, E (e₁.set name v) (e₂.set name v)
  unset {e₁ e₂ : Environment} : E e₁ e₂ → ∀ name, E (e₁.unset name) (e₂.unset name)

/-- The machines are the same but for their environments, which are related. -/
structure Machine.SameBut (E : Environment → Environment → Prop) (m₁ m₂ : Machine) : Prop where
  environment : E m₁.environment m₂.environment
  platform : m₁.platform = m₂.platform
  executable : m₁.executable = m₂.executable
  workingFolder : m₁.workingFolder = m₂.workingFolder
  shippedName : m₁.shippedName = m₂.shippedName
  shippedVersion : m₁.shippedVersion = m₂.shippedVersion
  legacyFolder : m₁.legacyFolder = m₂.legacyFolder
  disk : m₁.disk = m₂.disk
  threshold : m₁.threshold = m₂.threshold

namespace Machine.SameBut

variable {E : Environment → Environment → Prop} {m₁ m₂ : Machine} {op : Operation}

theorem installation (h : m₁.SameBut E m₂) : m₁.SameInstallation m₂ := { h with }

theorem surroundings (h : m₁.SameBut E m₂) : m₁.SameSurroundings m₂ := { h with }

theorem changed (hE : Environment.Lasts E) (h : m₁.SameBut E m₂) (c : MachineChange) :
    (m₁.changed c).SameBut E (m₂.changed c) :=
  { h.installation.changed c, h.surroundings.changed c with
    environment := List.foldl_rel h.environment fun x _ _ _ he => hE.set he x.1 x.2
    threshold := h.threshold }

theorem lasts (hE : Environment.Lasts E) : Machine.Lasts (SameBut E) where
  threshold h := h.threshold
  withDisks h hd := { h with disk := hd h.disk }
  withLevel h _ := { h with threshold := rfl }
  set h _ v := { h with environment := hE.set h.environment _ v }

theorem perform_alike (hE : Environment.Lasts E) (h : m₁.SameBut E m₂)
    (hreads : ∀ p ∈ op.reads, p.Same m₁ m₂) :
    (op.perform m₁).Alike (SameBut E) (op.perform m₂) := by
  apply Operation.perform_alike (lasts hE) h hreads
  intro hout
  cases op with
  | change c => exact h.changed hE c
  | unset name => exact { h with environment := hE.unset h.environment name }
  | _ => cases hout

end Machine.SameBut

/-! A session. -/

namespace Machine

variable {R : Machine → Machine → Prop} {m₁ m₂ : Machine}

/-- What holds of one operation on two machines holds of every session. -/
theorem session_alike {O : Operation → Operation → Prop}
    (hstep : ∀ {m₁ m₂ op₁ op₂}, R m₁ m₂ → O op₁ op₂ → (op₁.perform m₁).Alike R (op₂.perform m₂))
    (h : R m₁ m₂) {ops₁ ops₂ : List Operation} (hops : List.Forall₂ O ops₁ ops₂) :
    List.Forall₂ (Report.Alike R) (m₁.session ops₁) (m₂.session ops₂) := by
  induction hops generalizing m₁ m₂ with
  | nil => exact .nil
  | cons hop _ ih =>
    have hreport := hstep h hop
    exact .cons hreport (ih hreport.machine)

/-- What holds of each operation of a session, at the point where it is performed, holds of the
session and at every point of it. -/
theorem session_alike_at {ops : List Operation}
    (hstep : ∀ (i : Nat) (op : Operation), ops[i]? = some op →
      R (m₁.after (ops.take i)) (m₂.after (ops.take i)) →
      (op.perform (m₁.after (ops.take i))).Alike R (op.perform (m₂.after (ops.take i))))
    (h : R m₁ m₂) :
    List.Forall₂ (Report.Alike R) (m₁.session ops) (m₂.session ops) ∧
      ∀ i, R (m₁.after (ops.take i)) (m₂.after (ops.take i)) := by
  induction ops generalizing m₁ m₂ with
  | nil => exact ⟨.nil, fun i => by simpa using h⟩
  | cons op ops ih =>
    have hreport := hstep 0 op rfl h
    obtain ⟨hsession, hafter⟩ := ih (fun i op ho => hstep (i + 1) op ho) hreport.machine
    refine ⟨.cons hreport hsession, fun i => ?_⟩
    cases i with
    | zero => exact h
    | succ i => exact hafter i

theorem session_alike_self {P : Operation → Prop}
    (hstep : ∀ {m₁ m₂ op}, R m₁ m₂ → P op → (op.perform m₁).Alike R (op.perform m₂))
    (h : R m₁ m₂) {ops : List Operation} (hops : ∀ op ∈ ops, P op) :
    List.Forall₂ (Report.Alike R) (m₁.session ops) (m₂.session ops) :=
  (session_alike_at (fun _ op ho hr => hstep hr (hops op (List.mem_of_getElem? ho))) h).1

end Machine

end PanelConfig
