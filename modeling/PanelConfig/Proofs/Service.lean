import PanelConfig.Proofs.Startup

/-! What the service answers and logs, request by request. A request that asks for the report on the
configuration is answered by what becomes of the report; every other answer is read from the name
and the version of the panel alone, and logs nothing. -/

namespace PanelConfig.Service

variable {m m₁ m₂ : Machine} {r : Request}

def brokenRecord (r : Request) (e : Failure) : Record :=
  ⟨.error, .service, s!"Unhandled exception for {(Target.ofText r.target).address}: {e.message}"⟩

/-- The request asks for what a route reports. -/
def Request.AsksFor (route : Route) (r : Request) : Prop :=
  r.method.toUpper = "GET" ∧ Route.ofPath? (Target.ofText r.target).path = some route

theorem answer_of_asksFor {route : Route} (h : r.AsksFor route) (m : Machine) :
    answer m r = answerRoute m (Target.ofText r.target) route := by
  simp [answer, h.1, h.2]

theorem Request.AsksForReport.asksFor (h : r.AsksForReport) : r.AsksFor .config := h

theorem answer_of_snapshot (h : r.AsksForReport) {s : Snapshot} (hs : m.snapshot none = .ok s) :
    answer m r = (.json 200 s.value, []) := by
  simp only [answer_of_asksFor h.asksFor, answerRoute, hs]

theorem answer_of_incomplete (h : r.AsksForReport)
    (hs : m.snapshot none = .error .incompleteDatabase) :
    answer m r = (.detail 500 Failure.incompleteDatabase.message, []) := by
  simp only [answer_of_asksFor h.asksFor, answerRoute, hs]

theorem answer_of_failure (h : r.AsksForReport) {e : Failure} (hs : m.snapshot none = .error e)
    (hne : e ≠ .incompleteDatabase) : answer m r = (.broken, [brokenRecord r e]) := by
  rw [answer_of_asksFor h.asksFor, answerRoute, hs]
  cases e with
  | incompleteDatabase => exact absurd rfl hne
  | _ => rfl

theorem answerRoute_congr (hn : m₁.name = m₂.name) (hv : m₁.version = m₂.version) (t : Target)
    {route : Route} (h : route ≠ .config) :
    answerRoute m₁ t route = answerRoute m₂ t route ∧ (answerRoute m₁ t route).2 = [] := by
  cases route with
  | config => exact absurd rfl h
  | health => exact ⟨rfl, rfl⟩
  | version => exact ⟨by rw [answerRoute, answerRoute, versionValue, versionValue, hn, hv], rfl⟩

theorem answer_of_not (hn : m₁.name = m₂.name) (hv : m₁.version = m₂.version)
    (h : ¬r.AsksForReport) : answer m₁ r = answer m₂ r ∧ (answer m₁ r).2 = [] := by
  simp only [answer]
  cases hroute : Route.ofPath? (Target.ofText r.target).path with
  | none => exact ⟨rfl, rfl⟩
  | some route =>
    by_cases hget : r.method.toUpper = "GET"
    · have hother : route ≠ .config := by
        rintro rfl
        exact h ⟨hget, hroute⟩
      obtain ⟨heq, hnone⟩ := answerRoute_congr hn hv (Target.ofText r.target) hother
      simp only [if_pos hget, heq, true_and]
      rwa [← heq]
    · simp only [if_neg hget, and_self]

/-- The answers are the same where the name, the version and what becomes of the report are. -/
theorem answer_congr (hn : m₁.name = m₂.name) (hv : m₁.version = m₂.version)
    (hs : m₁.snapshot none = m₂.snapshot none) (r : Request) : answer m₁ r = answer m₂ r := by
  by_cases h : r.AsksForReport
  · rw [answer_of_asksFor h.asksFor, answer_of_asksFor h.asksFor, answerRoute, answerRoute, hs]
  · exact (answer_of_not hn hv h).1

end PanelConfig.Service

namespace PanelConfig.Machine

variable {m m₁ m₂ : Machine}

theorem serve_of_snapshot {s : Snapshot} (h : m.snapshot none = .ok s)
    (requests : List Service.Request) : (m.serve requests).2 = [] := by
  rw [serve, List.flatMap_eq_nil_iff]
  intro answer hanswer
  obtain ⟨r, -, rfl⟩ := List.mem_map.mp hanswer
  by_cases hr : r.AsksForReport
  · rw [Service.answer_of_snapshot hr h]
  · exact (Service.answer_of_not rfl rfl hr).2

/-- What is logged of the database does not tell the password: the text of a connection, which
holds it, is written for a file only. -/
theorem databaseNote_withPassword (m : Machine) (s : DatabaseSettings) (password : String) :
    m.databaseNote (s.withPassword password) = m.databaseNote s := by
  rw [databaseNote, databaseNote, DatabaseSettings.isMysql_withPassword]
  split
  · rfl
  next hm =>
  rw [connectionText, connectionText, DatabaseSettings.isMysql_withPassword, if_neg hm, if_neg hm]

theorem databaseNote_congr (hn : m₁.name = m₂.name)
    (hf : m₁.databaseFolder none = m₂.databaseFolder none) {s₁ s₂ : DatabaseSettings}
    (hs : s₁.withPassword "" = s₂.withPassword "") : m₁.databaseNote s₁ = m₂.databaseNote s₂ := by
  rw [← databaseNote_withPassword m₁ s₁ "", ← databaseNote_withPassword m₂ s₂ "", hs, databaseNote,
    databaseNote, connectionText_congr hn hf]

/-- What follows the migration is read from the settings of the database, the folders, and what the
answers are read from. -/
theorem serveConfigured_congr (hn : m₁.name = m₂.name) (hv : m₁.version = m₂.version)
    (hs : m₁.toldDatabase = m₂.toldDatabase) (hb : m₁.binFolder = m₂.binFolder)
    (hl : m₁.logFolder none = m₂.logFolder none)
    (hf : m₁.databaseFolder none = m₂.databaseFolder none)
    (hr : m₁.snapshot none = m₂.snapshot none) (requests : List Service.Request) :
    m₁.serveConfigured requests = m₂.serveConfigured requests := by
  have hserve : m₁.serve requests = m₂.serve requests := by
    rw [serve, serve, funext (Service.answer_congr hn hv hr)]
  rcases databaseSettings_of_told hs with ⟨e, h₁, h₂⟩ | ⟨s₁, s₂, h₁, h₂, htold⟩
  · simp only [serveConfigured, requiredDatabase, databaseRecords, h₁, h₂, hb, hl]
  · simp only [serveConfigured, requiredDatabase, h₁, h₂, hb, hl, databaseNote_congr hn hf htold,
      hserve, hn]

/-- The service lives alike where its migration ends alike and the parts that it reads are the same
before its start. -/
theorem runService_congr (ha : m₁.openingMigration.answer = m₂.openingMigration.answer)
    (hm : m₁.openingMigration.records = m₂.openingMigration.records)
    (hc : m₁.levelChoice = m₂.levelChoice) (hn : m₁.name = m₂.name) (hv : m₁.version = m₂.version)
    (hs : m₁.toldDatabase = m₂.toldDatabase) (hb : m₁.binFolder = m₂.binFolder)
    (hl : m₁.logFolder none = m₂.logFolder none)
    (hf : m₁.databaseFolder none = m₂.databaseFolder none)
    (hr : m₁.snapshot none = m₂.snapshot none) (requests : List Service.Request) :
    (m₁.runService requests).answer = (m₂.runService requests).answer ∧
      (m₁.runService requests).records = (m₂.runService requests).records := by
  have hlater : m₁.started.serveConfigured requests = m₂.started.serveConfigured requests := by
    apply serveConfigured_congr
    · exact hn
    · exact hv
    · rw [started_toldDatabase, started_toldDatabase, hs]
    · exact hb
    · exact hl
    · rw [started_databaseFolder, started_databaseFolder, hf]
    · rw [started_snapshot, started_snapshot, hr]
  constructor
  · cases h : m₁.openingMigration.answer with
    | error e => rw [runService_of_error h, runService_of_error (ha ▸ h)]
    | ok o => rw [runService_of_ok h, runService_of_ok (ha ▸ h), hlater]
  · simp only [records_runService, openingRecords, laterRecords, ha, hm, hc, hn, hv, hlater]

end PanelConfig.Machine
