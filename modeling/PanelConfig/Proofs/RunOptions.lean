import Mathlib.Data.List.TakeWhile
import PanelConfig.Proofs.CommandLine
import PanelConfig.Proofs.Environment
import PanelConfig.Proofs.LevelNames
import PanelConfig.Proofs.Restart
import PanelConfig.Proofs.Session
import PanelConfig.Proofs.Text.Decimal

/-! What `run` is told is what the server is started with, and what a start of the service in the
same session goes by. -/

namespace PanelConfig

namespace CommandLine

def runFlags : List String := ["--reload", "--debug"]

def runValues : List String := ["--host", "--port", "--log-level", "--db-folder"]

/-- The option is one of `run`, and its value is one that the system takes. -/
def OptionUse.isOfRun (u : OptionUse) : Bool :=
  if u.isFlag then runFlags.contains u.name
  else runValues.contains u.name && !u.value.toList.contains '\x00'

/-- The value that is given last to an option. -/
def lastValue? (uses : List OptionUse) (name : String) : Option String :=
  (uses.reverse.find? fun u => u.name = name).map OptionUse.value

/-- The port that is given last, in decimal, or the default one. -/
def GivesPort (uses : List OptionUse) (port : Int) : Prop :=
  match lastValue? uses "--port" with
  | none => port = 2053
  | some value => Text.IsDecimal value.toList port

/-- The arguments that the options are sorted into. -/
def sorted (uses : List OptionUse) : Arguments := ⟨uses.map fun u => (u.name, u.value), []⟩

variable {uses : List OptionUse} {u : OptionUse} {port : Int}

theorem isOptionName_of_mem {name : String} (h : name ∈ runFlags ++ runValues) :
    IsOptionName name := by
  simp only [runFlags, runValues, List.cons_append, List.nil_append, List.mem_cons,
    List.not_mem_nil, or_false] at h
  rcases h with rfl | rfl | rfl | rfl | rfl | rfl <;> exact ⟨by decide, by decide, by decide⟩

theorem exists_spec {name : String} (h : name ∈ runFlags ++ runValues) :
    ∃ spec, Command.run.options.find? (fun s => s.name = name) = some spec ∧
      (spec.value? = none ↔ name ∈ runFlags) := by
  simp only [runFlags, runValues, List.cons_append, List.nil_append, List.mem_cons,
    List.not_mem_nil, or_false] at h
  rcases h with rfl | rfl | rfl | rfl | rfl | rfl <;> exact ⟨_, rfl, by decide⟩

namespace OptionUse

theorem name_mem_of_isOfRun (h : u.isOfRun = true) : u.name ∈ runFlags ++ runValues := by
  rw [isOfRun] at h
  rw [List.mem_append]
  split at h
  · exact .inl (List.contains_iff_mem.mp h)
  · exact .inr (List.contains_iff_mem.mp (Bool.and_eq_true_iff.mp h).1)

theorem isFlag_iff_of_isOfRun (h : u.isOfRun = true) : u.isFlag = true ↔ u.name ∈ runFlags := by
  rw [isOfRun] at h
  split at h
  · next hflag =>
    have hname : u.name ∈ runFlags := List.contains_iff_mem.mp h
    exact iff_of_true hflag hname
  · next hflag =>
    have hname : u.name ∈ runValues := List.contains_iff_mem.mp (Bool.and_eq_true_iff.mp h).1
    have hdisjoint : ∀ name ∈ runValues, name ∉ runFlags := by decide
    exact iff_of_false hflag (hdisjoint u.name hname)

theorem notMem_value_of_isOfRun (h : u.isOfRun = true) : '\x00' ∉ u.value.toList := by
  rw [isOfRun] at h
  split at h
  · next hflag =>
    cases u with
    | flag name => simp [value]
    | apart | joined => cases hflag
  · intro hnull
    have hvalue := (Bool.and_eq_true_iff.mp h).2
    rw [List.contains_iff_mem.mpr hnull] at hvalue
    cases hvalue

theorem eq_flag_of_isFlag (h : u.isFlag = true) : u = .flag u.name := by
  cases u with
  | flag name => rfl
  | apart | joined => cases h

theorem fitsIn_of_isOfRun (h : u.isOfRun = true) : u.FitsIn Command.run.options := by
  have hname := name_mem_of_isOfRun h
  obtain ⟨spec, hspec, hvalue⟩ := exists_spec hname
  exact ⟨isOptionName_of_mem hname, spec, hspec, hvalue.trans (isFlag_iff_of_isOfRun h).symm⟩

end OptionUse

theorem lookup_map_uses (uses : List OptionUse) (name : String) :
    (uses.map fun u => (u.name, u.value)).lookup name =
      (uses.find? fun u => u.name = name).map OptionUse.value := by
  induction uses with
  | nil => rfl
  | cons u uses ih =>
    rw [List.map_cons, List.lookup_cons, List.find?_cons]
    by_cases h : u.name = name
    · simp [h]
    · have hne : (name == u.name) = false := by simpa using Ne.symm h
      rw [hne, ih]
      simp [h]

theorem last?_sorted (uses : List OptionUse) (name : String) :
    (sorted uses).last? name = lastValue? uses name := by
  rw [Arguments.last?, sorted, ← List.map_reverse, lookup_map_uses, lastValue?]

theorem has_sorted_iff {name : String} :
    (sorted uses).has name = true ↔ ∃ u ∈ uses, u.name = name := by
  simp [Arguments.has, sorted]

theorem has_sorted_flag (h : ∀ u ∈ uses, u.isOfRun = true) {name : String}
    (hname : name ∈ runFlags) :
    (sorted uses).has name = decide (OptionUse.flag name ∈ uses) := by
  rw [Bool.eq_iff_iff, has_sorted_iff, decide_eq_true_eq]
  constructor
  · rintro ⟨u, hu, rfl⟩
    have hflag := (OptionUse.isFlag_iff_of_isOfRun (h u hu)).mpr hname
    rwa [← OptionUse.eq_flag_of_isFlag hflag]
  · intro hmem
    exact ⟨_, hmem, rfl⟩

theorem has_sorted_help (h : ∀ u ∈ uses, u.isOfRun = true) :
    (sorted uses).has helpOption.name = false := by
  rw [Bool.eq_false_iff]
  intro hhelp
  obtain ⟨u, hu, hname⟩ := has_sorted_iff.mp hhelp
  have hother : ∀ name ∈ runFlags ++ runValues, name ≠ helpOption.name := by decide
  exact hother u.name (OptionUse.name_mem_of_isOfRun (h u hu)) hname

theorem notMem_lastValue (h : ∀ u ∈ uses, u.isOfRun = true) (name : String) :
    '\x00' ∉ ((lastValue? uses name).getD "").toList := by
  rw [lastValue?]
  cases hfind : uses.reverse.find? fun u => u.name = name with
  | none => simp
  | some u =>
    have hu : u ∈ uses := List.mem_reverse.mp (List.mem_of_find?_eq_some hfind)
    exact OptionUse.notMem_value_of_isOfRun (h u hu)

/-- The options as they are given. -/
def optionsOf (uses : List OptionUse) (port : Int) : RunOptions where
  host := (lastValue? uses "--host").getD defaultHost
  port := port
  reload := decide (.flag "--reload" ∈ uses)
  debug := decide (.flag "--debug" ∈ uses)
  level := (lastValue? uses "--log-level").getD ""
  databaseFolder := (lastValue? uses "--db-folder").getD ""

theorem portOf_sorted (h : GivesPort uses port) : RunOptions.portOf (sorted uses) = .ok port := by
  rw [GivesPort] at h
  rw [RunOptions.portOf, last?_sorted]
  cases hlast : lastValue? uses "--port" with
  | none =>
    rw [hlast] at h
    rw [h]
    rfl
  | some value =>
    rw [hlast] at h
    simp only [Text.readInteger_of_isDecimal h]

theorem ofArguments_sorted (h : ∀ u ∈ uses, u.isOfRun = true) (hport : GivesPort uses port) :
    RunOptions.ofArguments (sorted uses) = .ok (optionsOf uses port) := by
  have hreload := has_sorted_flag h (show "--reload" ∈ runFlags by decide)
  have hdebug := has_sorted_flag h (show "--debug" ∈ runFlags by decide)
  have hrest : ¬(sorted uses).rest ≠ [] := by simp [sorted]
  rw [RunOptions.ofArguments, portOf_sorted hport]
  simp only [Except.bind, if_neg hrest, last?_sorted, hreload, hdebug, optionsOf]

theorem performCommand_run (m : Machine) (h : ∀ u ∈ uses, u.isOfRun = true)
    (hport : GivesPort uses port) :
    performCommand m .run (uses.flatMap OptionUse.words) =
      startServer m (optionsOf uses port) := by
  have hsorted : sortArguments Command.run.options true (uses.flatMap OptionUse.words) =
      .ok (sorted uses) := by
    apply sortArguments_uses
    intro u hu
    exact OptionUse.fitsIn_of_isOfRun (h u hu)
  simp only [performCommand, hsorted, has_sorted_help h, Bool.false_eq_true, if_false,
    ofArguments_sorted h hport]

/-! The variables that are set. -/

/-- The system takes the value. -/
def isTaken (x : Setting × String) : Bool := !x.2.toList.contains '\x00'

/-- Variables are set up to the first value that the system refuses. -/
theorem assignAll_eq (xs : List (Setting × String)) (e : Environment) :
    assignAll xs e = (if xs.all isTaken then .ok () else .error .nullCharacter,
      (xs.takeWhile isTaken).foldl (fun e x => e.set x.1.variableName x.2) e) := by
  induction xs generalizing e with
  | nil => rfl
  | cons x xs ih =>
    rw [assignAll, Environment.assign, List.all_cons, List.takeWhile_cons, isTaken]
    cases x.2.toList.contains '\x00' with
    | true => rfl
    | false =>
      simp only [Bool.false_eq_true, if_false, Bool.not_false, if_true, Bool.true_and, ih,
        List.foldl_cons]

theorem isTaken_of_notMem {s : Setting} {v : String} (h : '\x00' ∉ v.toList) :
    isTaken (s, v) = true := by
  simp [isTaken, h]

theorem isTaken_of_mem {s : Setting} {v : String} (h : '\x00' ∈ v.toList) :
    isTaken (s, v) = false ∧ v ≠ "" := by
  refine ⟨by simp [isTaken, h], ?_⟩
  rintro rfl
  exact absurd h (by decide)

/-- The environment in which options leave their variables. -/
def RunOptions.exported (o : RunOptions) (e : Environment) : Environment :=
  o.exports.foldl (fun e x => e.set x.1.variableName x.2) e

theorem find?_setUnlessEmpty (e : Environment) (name v k : String) :
    (if v ≠ "" then e.set name v else e).find? k =
      if k = name ∧ v ≠ "" then some v else e.find? k := by
  by_cases h : v ≠ ""
  · rw [if_pos h, Environment.find?_set]
    simp only [h, ne_eq, not_false_eq_true, and_true]
  · rw [if_neg h, if_neg fun hk => h hk.2]

theorem find?_exported (o : RunOptions) (e : Environment) (name : String) :
    (o.exported e).find? name =
      if name = "XUI_DEBUG" ∧ o.debug = true then some "true"
      else if name = "XUI_LOG_LEVEL" ∧ o.level ≠ "" then some o.level
      else if name = "XUI_DB_FOLDER" ∧ o.databaseFolder ≠ "" then some o.databaseFolder
      else e.find? name := by
  have hdebug : (if o.debug = true then "true" else "") ≠ "" ↔ o.debug = true := by
    cases o.debug <;> simp
  rw [RunOptions.exported, RunOptions.exports, List.foldl_filter]
  simp only [List.foldl_cons, List.foldl_nil, decide_eq_true_eq, find?_setUnlessEmpty,
    Setting.variableName]
  simp only [hdebug]
  -- the variables differ, so it does not matter which of them is set last
  by_cases hd : name = "XUI_DEBUG"
  · subst hd
    by_cases ho : o.debug = true
    · simp [ho]
    · simp [ho]
  · by_cases hl : name = "XUI_LOG_LEVEL"
    · subst hl
      simp
    · simp [hd, hl]

namespace RunOptions

/-- A value for a variable holds a null character. -/
def HasNull (o : RunOptions) : Prop := '\x00' ∈ o.level.toList ∨ '\x00' ∈ o.databaseFolder.toList

/-- The options as far as they are exported where one of them holds a null character: the folder
comes last, so it is never reached. -/
def beforeNull (o : RunOptions) : RunOptions :=
  { o with level := if '\x00' ∈ o.level.toList then "" else o.level, databaseFolder := "" }

variable {o : RunOptions}

theorem all_exports (h : ¬o.HasNull) : o.exports.all isTaken = true := by
  rw [HasNull, not_or] at h
  rw [List.all_eq_true]
  intro x hx
  have hmem := List.mem_of_mem_filter hx
  simp only [List.mem_cons, List.not_mem_nil, or_false] at hmem
  rcases hmem with rfl | rfl | rfl
  · cases o.debug <;> decide
  · exact isTaken_of_notMem h.1
  · exact isTaken_of_notMem h.2

theorem takeWhile_exports (h : o.HasNull) :
    o.exports.all isTaken = false ∧ o.exports.takeWhile isTaken = o.beforeNull.exports := by
  have hdebug : isTaken (.debug, "true") = true := by decide
  by_cases hl : '\x00' ∈ o.level.toList
  · obtain ⟨hrefused, hne⟩ := isTaken_of_mem (s := .logLevel) hl
    cases hd : o.debug <;> simp [exports, beforeNull, hd, hl, hrefused, hne, hdebug]
  · obtain ⟨hrefused, hne⟩ := isTaken_of_mem (s := .databaseFolder) (h.resolve_left hl)
    have htaken : isTaken (.logLevel, o.level) = true := isTaken_of_notMem hl
    by_cases hempty : o.level = ""
    · cases hd : o.debug <;> simp [exports, beforeNull, hd, hempty, hrefused, hne, hdebug]
    · cases hd : o.debug <;>
        simp [exports, beforeNull, hd, hl, hempty, htaken, hrefused, hne, hdebug]

end RunOptions

def runEnding (m : Machine) (o : RunOptions) : Ending :=
  { Ending.printed (banner m o) with servers := [⟨o.host, o.port, o.reload⟩] }

theorem startServer_of_not {o : RunOptions} (h : ¬o.HasNull) (m : Machine) :
    startServer m o = (.ok (runEnding m o), o.exported m.environment) := by
  have hall := RunOptions.all_exports h
  have htake : o.exports.takeWhile isTaken = o.exports :=
    List.takeWhile_eq_self_iff.mpr (List.all_eq_true.mp hall)
  rw [startServer, assignAll_eq, hall, htake]
  rfl

theorem startServer_of_hasNull {o : RunOptions} (h : o.HasNull) (m : Machine) :
    startServer m o = (.error .nullCharacter, o.beforeNull.exported m.environment) := by
  obtain ⟨hall, htake⟩ := RunOptions.takeWhile_exports h
  rw [startServer, assignAll_eq, hall, htake]
  rfl

theorem not_hasNull_optionsOf (h : ∀ u ∈ uses, u.isOfRun = true) :
    ¬(optionsOf uses port).HasNull := by
  rintro (hlevel | hfolder)
  · exact notMem_lastValue h "--log-level" hlevel
  · exact notMem_lastValue h "--db-folder" hfolder

theorem perform_run (m : Machine) (h : ∀ u ∈ uses, u.isOfRun = true)
    (hport : GivesPort uses port) :
    perform m ("run" :: uses.flatMap OptionUse.words) =
      (.ok (runEnding m (optionsOf uses port)), (optionsOf uses port).exported m.environment) := by
  have hcommand := perform_command m .run (uses.flatMap OptionUse.words)
  rw [performCommand_run m h hport, startServer_of_not (not_hasNull_optionsOf h)] at hcommand
  exact hcommand

theorem find?_run (uses : List OptionUse) (port : Int) (e : Environment) (name : String) :
    ((optionsOf uses port).exported e).find? name =
      if name = "XUI_DEBUG" ∧ .flag "--debug" ∈ uses then some "true"
      else if name = "XUI_LOG_LEVEL" ∧ (lastValue? uses "--log-level").getD "" ≠ "" then
        lastValue? uses "--log-level"
      else if name = "XUI_DB_FOLDER" ∧ (lastValue? uses "--db-folder").getD "" ≠ "" then
        lastValue? uses "--db-folder"
      else e.find? name := by
  have hgiven : ∀ given : Option String, given.getD "" ≠ "" → some (given.getD "") = given := by
    intro given hne
    cases given with
    | none => exact absurd rfl hne
    | some value => rfl
  have hdebug : (optionsOf uses port).debug = true ↔ OptionUse.flag "--debug" ∈ uses :=
    decide_eq_true_iff
  have hlevel : (optionsOf uses port).level = (lastValue? uses "--log-level").getD "" := rfl
  have hfolder : (optionsOf uses port).databaseFolder = (lastValue? uses "--db-folder").getD "" :=
    rfl
  rw [find?_exported]
  simp only [hdebug, hlevel, hfolder]
  by_cases hl : name = "XUI_LOG_LEVEL" ∧ (lastValue? uses "--log-level").getD "" ≠ ""
  · rw [if_pos hl, if_pos hl, hgiven _ hl.2]
  by_cases hf : name = "XUI_DB_FOLDER" ∧ (lastValue? uses "--db-folder").getD "" ≠ ""
  · rw [if_neg hl, if_neg hl, if_pos hf, if_pos hf, hgiven _ hf.2]
  · rw [if_neg hl, if_neg hl, if_neg hf, if_neg hf]

end CommandLine

namespace Machine

variable {m : Machine}

theorem threshold_started_of_debug (h : m.environment.value .debug = "true") :
    m.started.threshold = .debug := by
  show m.levelChoice.applied = .debug
  rw [levelChoice, isDebug, h]
  rfl

/-- An empty text names no level, so it makes no difference that it is not looked up. -/
theorem threshold_started (h : m.environment.value .debug ≠ "true") :
    m.started.threshold = (LevelChoice.written (m.environment.value .logLevel)).applied := by
  show m.levelChoice.applied = _
  rw [levelChoice, isDebug, if_neg (by simpa using h)]
  split
  · next hempty =>
    rw [hempty]
    decide
  · rfl

theorem databaseFolder_of_override (h : m.environment.value .databaseFolder ≠ "")
    (platform : Option String) :
    m.databaseFolder platform = .ok (m.environment.value .databaseFolder) := by
  rw [databaseFolder, if_pos h]

open CommandLine

/-- The machine after `run` with options. -/
def afterRun (m : Machine) (o : RunOptions) : Machine :=
  { m with environment := o.exported m.environment }

theorem session_run {uses : List OptionUse} {port : Int} (m : Machine)
    (h : ∀ u ∈ uses, u.isOfRun = true) (hport : GivesPort uses port)
    (requests : List Service.Request) :
    m.session [.commandLine ("run" :: uses.flatMap OptionUse.words), .runService requests] =
      [⟨.ok (.ending (runEnding m (optionsOf uses port))), [], m.afterRun (optionsOf uses port)⟩,
        (Operation.runService requests).perform (m.afterRun (optionsOf uses port))] := by
  have hrun : (Operation.commandLine ("run" :: uses.flatMap OptionUse.words)).perform m =
      ⟨.ok (.ending (runEnding m (optionsOf uses port))), [],
        m.afterRun (optionsOf uses port)⟩ := by
    simp only [Operation.perform, Operation.emit, perform_run m h hport]
    rfl
  rw [session, session, session, hrun]

/-- What a start of the service finds where the folder for databases is set. -/
theorem start_of_override {folder : String} (h : m.environment.value .databaseFolder = folder)
    (hne : folder ≠ "") (requests : List Service.Request) :
    m.openingMigration = ⟨.ok (if m.isWindows none then .skippedOverride else .skippedPlatform), [],
        m.disk⟩ ∧
      m.started.disk = m.disk ∧
      (∀ platform, m.started.databaseFolder platform = .ok folder) ∧
      ∀ s, m.started.databaseSettings = .ok s → s.isMysql = false →
        note s!"Database: {m.databaseFile folder}" ∈ (m.runService requests).records := by
  have hfixed : m.HasFixedFolder none := .inr (h.symm ▸ hne)
  have hmigration := hfixed.openingMigration
  have hfolder : ∀ platform, m.databaseFolder platform = .ok folder := by
    intro platform
    rw [databaseFolder_of_override (h.symm ▸ hne), h]
  refine ⟨hmigration, congrArg Migration.disk hmigration, ?_, ?_⟩
  · intro platform
    rw [started_databaseFolder, hfolder]
  · intro s hs hm
    rw [started_databaseSettings] at hs
    rw [records_runService, laterRecords_eq (congrArg Migration.answer hmigration) (hfolder none),
      hs]
    have hrecord : m.started.databaseRecord s folder =
        note s!"Database: {m.databaseFile folder}" := by
      rw [databaseRecord, hm]
      rfl
    simp only [hrecord]
    simp

/-- What `run` is told is what the server is started with, and what the next start of the service
goes by: each option that is given leaves its variable, and a folder for databases that is given is
used as it is. Of the log the start puts the severity into effect that the variable for the level
names, or that for information if it names none, unless debugging is on. -/
theorem run_decides_start (m : Machine) (uses : List OptionUse) (port : Int)
    (h : ∀ u ∈ uses, u.isOfRun = true) (hport : GivesPort uses port)
    (requests : List Service.Request) :
    ∃ run start ending,
      m.session [.commandLine ("run" :: uses.flatMap OptionUse.words), .runService requests] =
        [run, start] ∧
      run.answer = .ok (.ending ending) ∧ ending.exitCode = 0 ∧
      ending.servers =
        [⟨(lastValue? uses "--host").getD "0.0.0.0", port, decide (.flag "--reload" ∈ uses)⟩] ∧
      (∀ name, run.machine.environment.find? name =
        if name = "XUI_DEBUG" ∧ .flag "--debug" ∈ uses then some "true"
        else if name = "XUI_LOG_LEVEL" ∧ (lastValue? uses "--log-level").getD "" ≠ "" then
          lastValue? uses "--log-level"
        else if name = "XUI_DB_FOLDER" ∧ (lastValue? uses "--db-folder").getD "" ≠ "" then
          lastValue? uses "--db-folder"
        else m.environment.find? name) ∧
      (run.machine.environment.find? "XUI_DEBUG" = some "true" →
        start.machine.threshold = .debug) ∧
      (run.machine.environment.find? "XUI_DEBUG" ≠ some "true" →
        let level := (run.machine.environment.find? "XUI_LOG_LEVEL").getD ""
        (∀ severity, NamesSeverity level severity → start.machine.threshold = severity) ∧
          ((∀ severity, ¬NamesSeverity level severity) → start.machine.threshold = .info)) ∧
      ∀ folder, lastValue? uses "--db-folder" = some folder → folder ≠ "" →
        run.machine.openingMigration =
          ⟨.ok (if m.isWindows none then .skippedOverride else .skippedPlatform), [], m.disk⟩ ∧
        start.machine.disk = m.disk ∧
        (∀ platform, start.machine.databaseFolder platform = .ok folder) ∧
        ∀ s, start.machine.databaseSettings = .ok s → s.isMysql = false →
          note s!"Database: {m.databaseFile folder}" ∈
            (run.machine.runService requests).records := by
  have hdebug : (m.afterRun (optionsOf uses port)).environment.find? "XUI_DEBUG" = some "true" ↔
      (m.afterRun (optionsOf uses port)).environment.value .debug = "true" := by
    rw [Environment.value, Setting.variableName]
    cases (m.afterRun (optionsOf uses port)).environment.find? "XUI_DEBUG" <;> simp
  refine ⟨_, _, _, session_run m h hport requests, rfl, rfl, rfl, find?_run uses port _,
    fun hd => ?_, fun hd => ?_, ?_⟩
  · rw [machine_perform_runService]
    exact threshold_started_of_debug (hdebug.mp hd)
  · rw [machine_perform_runService, threshold_started (mt hdebug.mpr hd)]
    exact ⟨fun _ => LevelChoice.applied_of_names, LevelChoice.applied_of_not⟩
  · intro folder hfolder hne
    have hset : (m.afterRun (optionsOf uses port)).environment.value .databaseFolder = folder := by
      have hgiven : (lastValue? uses "--db-folder").getD "" ≠ "" := by
        rw [hfolder, Option.getD_some]
        exact hne
      have hfind := find?_run uses port m.environment "XUI_DB_FOLDER"
      rw [if_neg (by simp), if_neg (by simp), if_pos ⟨rfl, hgiven⟩, hfolder] at hfind
      exact congrArg (Option.getD · "") hfind
    have hstart := start_of_override hset hne requests
    rw [machine_perform_runService]
    exact hstart

/-- Options in both forms, some of them given more than once, with values that look like options. -/
def manyOptions : List OptionUse :=
  [.apart "--host" "::1", .joined "--port" "http", .flag "--debug", .joined "--db-folder" "C:\\a=b",
    .apart "--port" "-8080", .apart "--log-level" "--reload", .joined "--host" ""]

/-- A level in letters of both cases, after one that no name is like. -/
def warningOptions : List OptionUse :=
  [.apart "--log-level" "loud", .joined "--log-level" "WARNing"]

theorem run_decides_start_outdated :
    (∀ u ∈ manyOptions, u.isOfRun = true) ∧ GivesPort manyOptions (-8080) ∧
      (∃ run start ending,
        outdated.session [.commandLine ("run" :: manyOptions.flatMap OptionUse.words),
          .runService []] = [run, start] ∧
        run.answer = .ok (.ending ending) ∧ ending.servers = [⟨"", -8080, false⟩] ∧
        run.machine.environment.find? "XUI_LOG_LEVEL" = some "--reload" ∧
        start.machine.threshold = .debug ∧ start.machine.disk = outdated.disk ∧
        start.machine.databaseFolder none = .ok "C:\\a=b") ∧
      ∃ run start,
        outdated.session [.commandLine ("run" :: warningOptions.flatMap OptionUse.words),
          .runService []] = [run, start] ∧
        start.machine.threshold = .warning := by
  have huses : ∀ u ∈ manyOptions, u.isOfRun = true := by decide
  have hlast : lastValue? manyOptions "--port" = some (toString (-8080 : Int)) := by decide
  have hport : GivesPort manyOptions (-8080) := by
    rw [GivesPort, hlast]
    exact Text.isDecimal_toString (by decide)
  obtain ⟨run, start, ending, hsession, hanswer, -, hservers, hfind, hdebug, -, hfolder⟩ :=
    run_decides_start outdated manyOptions (-8080) huses hport []
  obtain ⟨-, hdisk, hdatabase, -⟩ := hfolder "C:\\a=b" (by decide) (by decide)
  obtain ⟨run', start', -, hsession', -, -, -, hfind', -, hlevel, -⟩ :=
    run_decides_start outdated warningOptions 2053 (by decide) rfl []
  refine ⟨huses, hport, ⟨run, start, ending, hsession, hanswer, hservers, ?_, ?_, hdisk,
    hdatabase none⟩, run', start', hsession', ?_⟩
  · rw [hfind]
    decide
  · apply hdebug
    rw [hfind]
    decide
  · have hunset : run'.machine.environment.find? "XUI_DEBUG" ≠ some "true" := by
      rw [hfind']
      decide
    refine (hlevel hunset).1 .warning ?_
    rw [hfind']
    exact .warning (by decide)

end Machine

end PanelConfig
