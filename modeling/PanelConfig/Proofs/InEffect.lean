import PanelConfig.Proofs.Restart
import PanelConfig.Proofs.Service

/-! The report on the configuration tells what a start of the service puts into effect. Each item is
found by a call of its own, with the level once as a choice and once as a text and the connection
once as it is set and once as it is shown, but they agree on every machine. -/

namespace PanelConfig

theorem LevelChoice.severity?_text (c : LevelChoice) :
    (Level.ofText? c.text).map Level.severity = c.severity? := by
  cases c with
  | known l => cases l <;> decide
  | written s => rfl

/-- Where the report says that the database is. -/
def Snapshot.databasePlace (s : Snapshot) : String :=
  if s.database.connection = "mysql" then s!"mysql at {s.database.host}:{s.database.port}"
  else s!"{s.databaseFolder}/{s.name}.db"

/-- A record of the service whose message opens with a label. -/
def Record.tells (r : Record) (label : String) : Bool :=
  decide (r.origin = .service) && label.toList.isPrefixOf r.message.toList

theorem Record.tells_of_origin {r : Record} (h : r.origin ≠ .service) (label : String) :
    r.tells label = false := by
  rw [tells, decide_eq_false h, Bool.false_and]

namespace DatabaseSettings

theorem connection_report_iff {s : DatabaseSettings} :
    s.report.connection = "mysql" ↔ s.isMysql = true := by
  show orElse s.connection DatabaseReport.fileConnection = "mysql" ↔
    decide (s.connection = "mysql") = true
  rw [orElse, decide_eq_true_iff]
  split
  · next h =>
    rw [h]
    decide
  · exact Iff.rfl

end DatabaseSettings

namespace Machine

variable {m : Machine}

theorem orElse_ne_empty {s fallback : String} (h : fallback ≠ "") : orElse s fallback ≠ "" := by
  rw [orElse]
  split
  · exact h
  · next hs => exact hs

/-- With MySQL chosen, the settings that are not refused are all there but for the password. -/
theorem ne_empty_of_isMysql {s : DatabaseSettings} (h : m.databaseSettings = .ok s)
    (hm : s.isMysql = true) :
    s.host ≠ "" ∧ s.port ≠ "" ∧ s.database ≠ "" ∧ s.username ≠ "" := by
  rw [databaseSettings] at h
  split at h
  · cases h
  next hcomplete =>
  obtain rfl : m.givenDatabase.withPort = s := Except.ok.inj h
  have hgiven : m.givenDatabase.isMysql = true := by
    cases hg : m.givenDatabase.isMysql with
    | true => rfl
    | false =>
      rw [DatabaseSettings.withPort, hg] at hm
      exact absurd hm (by simp [hg])
  rw [DatabaseSettings.isIncomplete, hgiven] at hcomplete
  simp only [Bool.true_and, Bool.or_eq_true, decide_eq_true_eq, not_or] at hcomplete
  rw [DatabaseSettings.withPort, if_pos hgiven]
  exact ⟨hcomplete.1.1, orElse_ne_empty (by decide), hcomplete.1.2, hcomplete.2⟩

theorem databaseRecord_eq {s : Snapshot} {settings : DatabaseSettings}
    (hreport : s.database = settings.report) (hname : s.name = m.name) :
    m.databaseRecord settings s.databaseFolder = note s!"Database: {s.databasePlace}" := by
  rw [databaseRecord, Snapshot.databasePlace, hreport]
  by_cases hm : settings.isMysql = true
  · rw [if_pos hm, if_pos (DatabaseSettings.connection_report_iff.mpr hm)]
    refine congrArg note (String.toList_injective ?_)
    simp [toString, DatabaseSettings.report]
  · rw [if_neg hm, if_neg fun hc => hm (DatabaseSettings.connection_report_iff.mp hc)]
    refine congrArg note (String.toList_injective ?_)
    simp [toString, databaseFile, databaseEnding, hname]

theorem records_of_answer {requests : List Service.Request} {responses : List Service.Response}
    (h : (m.runService requests).answer = .ok responses) :
    ∃ s o, m.snapshot none = .ok s ∧ (m.runService requests).records =
      (m.openingRecords ++ m.openingMigration.records) ++
        [outcomeRecord o, note s!"Binary folder: {s.binFolder}", note s!"Log folder: {s.logFolder}",
          note s!"Database: {s.databasePlace}", m.closingRecord] := by
  cases hm : m.openingMigration.answer with
  | error e =>
    rw [runService_of_error hm] at h
    cases h
  | ok o =>
    obtain ⟨settings, folder, hs, hf, -⟩ := responses_of_runService h
    obtain ⟨s, hsnapshot⟩ := exists_snapshot hs hf
    obtain ⟨settings', hs', hf', hreport, hname, -, -, -, hbin, hlog⟩ := snapshot_items hsnapshot
    obtain rfl : settings' = settings := Except.ok.inj (hs'.symm.trans hs)
    obtain rfl : folder = s.databaseFolder := Except.ok.inj (hf.symm.trans hf')
    have hserved : (m.started.serve requests).2 = [] :=
      serve_of_snapshot (by rw [started_snapshot, hsnapshot]) requests
    have hdatabase : m.started.databaseRecord settings' s.databaseFolder =
        note s!"Database: {s.databasePlace}" := databaseRecord_eq hreport hname
    refine ⟨s, o, hsnapshot, ?_⟩
    rw [records_runService, laterRecords_eq hm hf, hs]
    simp only [hserved, hdatabase, folderRecords, hbin, hlog]
    rfl

/-- Before the folders the service tells of its start alone. -/
theorem filter_earlier {label : String}
    (h : (note s!"Starting {m.name} {m.version}...").tells label = false) :
    (m.openingRecords ++ m.openingMigration.records).filter (·.tells label) = [] := by
  rw [List.filter_eq_nil_iff]
  intro r hr
  rw [Bool.not_eq_true]
  rcases List.mem_append.mp hr with hr | hr
  · rcases mem_openingRecords hr with ⟨-, horigin⟩ | rfl
    · exact Record.tells_of_origin (by rw [horigin]; decide) label
    · exact h
  · exact Record.tells_of_origin (by rw [origin_of_mem_migrate hr]; decide) label

/-- Of what a start logs, three records tell of the folders and of the database, one each. -/
theorem filter_records {requests : List Service.Request} {responses : List Service.Response}
    (h : (m.runService requests).answer = .ok responses) :
    ∃ s, m.snapshot none = .ok s ∧
      (m.runService requests).records.filter (·.tells "Binary folder: ") =
        [note s!"Binary folder: {s.binFolder}"] ∧
      (m.runService requests).records.filter (·.tells "Log folder: ") =
        [note s!"Log folder: {s.logFolder}"] ∧
      (m.runService requests).records.filter (·.tells "Database: ") =
        [note s!"Database: {s.databasePlace}"] := by
  obtain ⟨s, o, hsnapshot, hrecords⟩ := records_of_answer h
  have hlater : ∀ label ∈ ["Binary folder: ", "Log folder: ", "Database: "],
      (m.runService requests).records.filter (·.tells label) =
        [outcomeRecord o, note s!"Binary folder: {s.binFolder}", note s!"Log folder: {s.logFolder}",
          note s!"Database: {s.databasePlace}", m.closingRecord].filter (·.tells label) := by
    intro label hlabel
    have hstart : (note s!"Starting {m.name} {m.version}...").tells label = false := by
      simp only [List.mem_cons, List.not_mem_nil, or_false] at hlabel
      rcases hlabel with rfl | rfl | rfl <;>
        simp [Record.tells, note, toString, List.isPrefixOf_cons_cons]
    rw [hrecords, List.filter_append, filter_earlier hstart, List.nil_append]
  -- each label is told apart from the others by its first two letters
  refine ⟨s, hsnapshot, ?_, ?_, ?_⟩
  · rw [hlater "Binary folder: " (by decide)]
    simp [Record.tells, note, outcomeRecord, closingRecord, toString, List.isPrefixOf_cons_cons]
  · rw [hlater "Log folder: " (by decide)]
    simp [Record.tells, note, outcomeRecord, closingRecord, toString, List.isPrefixOf_cons_cons]
  · rw [hlater "Database: " (by decide)]
    simp [Record.tells, note, outcomeRecord, closingRecord, toString, List.isPrefixOf_cons_cons]

/-- The path of the database is the place that the report gives, unless that is a server. -/
theorem databasePath_of_snapshot {s : Snapshot} (h : m.snapshot none = .ok s)
    (hc : s.database.connection ≠ "mysql") :
    m.databasePath none = .ok s!"{s.databaseFolder}/{s.name}.db" := by
  obtain ⟨settings, hs, hf, hreport, hname, -⟩ := snapshot_items h
  have hm : settings.isMysql = false := by
    rw [Bool.eq_false_iff]
    intro hm
    exact hc (hreport ▸ DatabaseSettings.connection_report_iff.mpr hm)
  rw [databasePath, requiredDatabase, hs]
  show connectionText _ _ _ = _
  rw [connectionText, hm, if_neg Bool.false_ne_true, hf, hname]
  rfl

/-- The report tells what is in effect. Once a start of the service has not failed, the threshold of
the log is the one that the level in the report names, or that for information; and of the records
that it lets through, one each tells of the two folders and of the database, as the report does. The
report shows a MySQL server only with all that is required to reach it. -/
theorem report_tells_what_is_in_effect (m : Machine) :
    (∀ platform s, m.snapshot platform = .ok s → s.database.connection = "mysql" →
      s.database.host ≠ "" ∧ s.database.port ≠ "" ∧ s.database.database ≠ "" ∧
        s.database.username ≠ "") ∧
    ∀ requests responses, (m.runService requests).answer = .ok responses →
      ∃ s, m.snapshot none = .ok s ∧
        let start := (Operation.runService requests).perform m
        let threshold := ((Level.ofText? s.logLevel).map Level.severity).getD .info
        start.machine.threshold = threshold ∧
        (s.debug = true → s.logLevel = "debug" ∧ threshold = .debug) ∧
        start.records = threshold.visible (m.runService requests).records ∧
        start.records.filter (·.tells "Binary folder: ") =
          threshold.visible [note s!"Binary folder: {s.binFolder}"] ∧
        start.records.filter (·.tells "Log folder: ") =
          threshold.visible [note s!"Log folder: {s.logFolder}"] ∧
        start.records.filter (·.tells "Database: ") =
          threshold.visible [note s!"Database: {s.databasePlace}"] ∧
        (s.database.connection ≠ "mysql" →
          start.machine.databasePath none = .ok s!"{s.databaseFolder}/{s.name}.db") := by
  constructor
  · intro platform s hs hc
    obtain ⟨settings, hsettings, -, hreport, -⟩ := snapshot_items hs
    rw [hreport] at hc ⊢
    exact ne_empty_of_isMysql hsettings (DatabaseSettings.connection_report_iff.mp hc)
  · intro requests responses h
    obtain ⟨s, hsnapshot, hbin, hlog, hdatabase⟩ := filter_records h
    obtain ⟨-, -, -, -, -, -, hlevel, hdebug, -⟩ := snapshot_items hsnapshot
    refine ⟨s, hsnapshot, ?_⟩
    intro start threshold
    have hmachine : start.machine = m.started := machine_perform_runService m requests
    have hthreshold : threshold = m.started.threshold := by
      show ((Level.ofText? s.logLevel).map Level.severity).getD .info = _
      rw [hlevel, LevelChoice.severity?_text]
      rfl
    have hvisible : start.records = threshold.visible (m.runService requests).records := by
      rw [hthreshold, ← hmachine]
      rfl
    have hfilter : ∀ label, start.records.filter (·.tells label) =
        threshold.visible ((m.runService requests).records.filter (·.tells label)) := by
      intro label
      rw [hvisible, Severity.visible, Severity.visible, List.filter_comm]
    refine ⟨?_, fun hd => ?_, hvisible, ?_, ?_, ?_, fun hc => ?_⟩
    · rw [hmachine, hthreshold]
    · have hchoice : m.levelChoice = .known .debug := by
        rw [levelChoice, ← hdebug, if_pos hd]
      refine ⟨by rw [hlevel, hchoice]; rfl, ?_⟩
      rw [hthreshold]
      show m.levelChoice.applied = .debug
      rw [hchoice]
      rfl
    · rw [hfilter, hbin]
    · rw [hfilter, hlog]
    · rw [hfilter, hdatabase]
    · rw [hmachine]
      exact databasePath_of_snapshot (by rw [started_snapshot, hsnapshot]) hc

/-- A machine on which debugging is on, whose database is on a MySQL server. -/
def debugged : Machine :=
  { outdated with environment := ⟨[("XUI_DEBUG", "true"), ("XUI_LOG_LEVEL", "error"),
      ("XUI_DB_CONNECTION", "MySQL"), ("XUI_DB_HOST", "db"), ("XUI_DB_DATABASE", "panel"),
      ("XUI_DB_USERNAME", "u")]⟩ }

theorem report_tells_what_is_in_effect_debugged :
    (debugged.runService []).answer = .ok [] ∧ ∃ s, debugged.snapshot none = .ok s ∧
      s.database.connection = "mysql" ∧ s.database.port ≠ "" ∧ s.debug = true ∧
      s.logLevel = "debug" ∧
      ((Operation.runService []).perform debugged).machine.threshold = .debug ∧
      ((Operation.runService []).perform debugged).records.filter (·.tells "Database: ") =
        Severity.visible .debug [note s!"Database: {s.databasePlace}"] := by
  have h : (debugged.runService []).answer = .ok [] := by decide +kernel
  have htold : ∃ s, debugged.snapshot none = .ok s ∧ s.database.connection = "mysql" ∧
      s.debug = true :=
    ⟨_, rfl, by decide +kernel, by decide +kernel⟩
  obtain ⟨hserver, hstart⟩ := report_tells_what_is_in_effect debugged
  obtain ⟨s, hs, hthreshold, hdebug, -, -, -, hdatabase, -⟩ := hstart [] [] h
  obtain ⟨told, htold, hc, hd⟩ := htold
  obtain rfl : told = s := Except.ok.inj (htold.symm.trans hs)
  obtain ⟨hlevel, happlied⟩ := hdebug hd
  rw [happlied] at hthreshold hdatabase
  exact ⟨h, told, hs, hc, (hserver none told hs hc).2.1, hd, hlevel, hthreshold, hdatabase⟩

end Machine

end PanelConfig
