import PanelConfig.Proofs.Threshold

/-! Requests leave no trace. None of them changes the machine, so that in whatever company it comes
a request is answered as it would be alone, before the start of the service as well as after it. One
thing alone makes a request log something: a report on the configuration that breaks for another
reason than incomplete settings of the database. -/

namespace PanelConfig.Machine

variable {m : Machine} {platform : Option String} {e : Failure} {r : Service.Request}

/-! What breaks a report. -/

theorem databaseFolder_eq_error_iff : m.databaseFolder platform = .error e ↔
    m.environment.value .databaseFolder = "" ∧ m.isWindows platform = true ∧ m.LosesBase e := by
  rw [databaseFolder, ← baseFolder_eq_error_iff]
  split
  · next h => simp [h]
  next h =>
  split
  · next hw => cases m.baseFolder <;> simp_all [Except.map]
  · next hw => simp [hw]

/-- A report breaks, other than for incomplete settings of the database, where these are complete
but the folder of the database cannot be told. -/
theorem snapshot_breaks_iff :
    m.snapshot platform = .error e ∧ e ≠ .incompleteDatabase ↔
      (∃ s, m.databaseSettings = .ok s) ∧ m.environment.value .databaseFolder = "" ∧
        m.isWindows platform = true ∧ m.LosesBase e := by
  rw [← databaseFolder_eq_error_iff, snapshot]
  cases hs : m.databaseSettings with
  | error e' =>
    obtain rfl := databaseSettings_error hs
    simp [Except.bind, eq_comm]
  | ok s =>
    cases hf : m.databaseFolder platform with
    | ok folder => simp [Except.bind, Except.map]
    | error e' =>
      obtain ⟨fault, message, -, rfl⟩ := workingFolder_of_databaseFolder hf
      simp only [Except.bind, Except.map, Except.error.injEq, Except.ok.injEq, exists_eq',
        true_and, and_iff_left_iff_imp]
      rintro rfl
      simp

/-! What a request logs and how it is answered. -/

theorem records_of_silentAnswer (h : (Service.answer m r).2 = []) :
    ((Operation.request r).perform m).records = [] := by
  simp only [Operation.perform, Operation.emit, h, Severity.visible, List.filter_nil]

/-- A request is logged if it is for a report and the report breaks, and not otherwise. -/
theorem records_perform_request_ne_nil_iff :
    ((Operation.request r).perform m).records ≠ [] ↔
      r.AsksForReport ∧ ∃ e, m.snapshot none = .error e ∧ e ≠ .incompleteDatabase := by
  constructor
  · intro h
    by_cases hr : r.AsksForReport
    · refine ⟨hr, ?_⟩
      cases hs : m.snapshot none with
      | ok s => exact absurd (records_of_silentAnswer (by rw [Service.answer_of_snapshot hr hs])) h
      | error e =>
        refine ⟨e, rfl, ?_⟩
        rintro rfl
        exact h (records_of_silentAnswer (by rw [Service.answer_of_incomplete hr hs]))
    · exact absurd (records_of_silentAnswer (Service.answer_of_not rfl rfl hr).2) h
  · rintro ⟨hr, e, hs, he⟩
    rw [records_perform_request hr hs he]
    exact List.cons_ne_nil _ _

/-- The response to a request that breaks. -/
def brokenResponse : Service.Response :=
  ⟨500, some "application/json", none, none, "\x7b\"detail\":\"Internal server error\"\x7d"⟩

theorem answer_perform_request (hr : r.AsksForReport) (hs : m.snapshot none = .error e)
    (he : e ≠ .incompleteDatabase) :
    ((Operation.request r).perform m).answer = .ok (.response brokenResponse) := by
  have hbroken : Service.Response.broken = brokenResponse := by decide +kernel
  rw [← hbroken]
  simp only [Operation.perform, Operation.emit, Service.answer_of_failure hr hs he]

/-! Requests in company. -/

@[simp] theorem machine_perform_request (m : Machine) (r : Service.Request) :
    ((Operation.request r).perform m).machine = m := rfl

/-- Each of many requests goes as if it were alone. -/
theorem session_requests (m : Machine) (requests : List Service.Request) :
    m.session (requests.map .request) =
      requests.map fun r => (Operation.request r).perform m := by
  induction requests with
  | nil => rfl
  | cons r requests ih => rw [List.map_cons, session, machine_perform_request, ih, List.map_cons]

theorem after_requests (m : Machine) (requests : List Service.Request) :
    m.after (requests.map .request) = m := by
  induction requests with
  | nil => rfl
  | cons r requests ih => rw [List.map_cons, after_cons, machine_perform_request, ih]

/-- The service answers before its start as it does after it. -/
theorem answer_started (m : Machine) (r : Service.Request) :
    Service.answer m.started r = Service.answer m r := by
  apply Service.answer_congr
  · exact name_congr rfl
  · exact version_congr rfl
  · exact started_snapshot m none

/-- A start that answers some requests answers any others, each as if it were alone. -/
theorem runService_of_responses {requests : List Service.Request}
    {responses : List Service.Response} (h : (m.runService requests).answer = .ok responses)
    (others : List Service.Request) :
    (m.runService others).answer = .ok (others.map fun r => (Service.answer m r).1) := by
  cases hm : m.openingMigration.answer with
  | error e =>
    rw [runService_of_error hm] at h
    cases h
  | ok o =>
    rw [answer_runService_of_ok hm] at h ⊢
    cases hs : m.databaseSettings with
    | error e =>
      rw [hs] at h
      cases h
    | ok s => simp only [answer_started]

/-- Requests do not touch the machine, nor each other. A request leaves the machine as it is, and
logs something exactly if it is for a report that breaks, for another reason than incomplete
settings of the database: then it has the response of what is not expected, whatever has gone wrong,
and one record for an error, at every threshold. The responses of a start that answers are those to
the same requests on the machine before it, one by one, with nothing logged; in another order, with
some left out or repeated, the responses are the same ones in that order. -/
theorem requests_do_not_interfere (m : Machine) :
    (∀ r, ((Operation.request r).perform m).machine = m ∧
      (((Operation.request r).perform m).records ≠ [] ↔
        r.AsksForReport ∧ ∃ e, m.snapshot none = .error e ∧ e ≠ .incompleteDatabase) ∧
      ∀ e, r.AsksForReport → m.snapshot none = .error e → e ≠ .incompleteDatabase →
        ((Operation.request r).perform m).answer = .ok (.response brokenResponse) ∧
          ((Operation.request r).perform m).records = [Service.brokenRecord r e]) ∧
    (∀ e, m.snapshot none = .error e ∧ e ≠ .incompleteDatabase ↔
      (∃ s, m.databaseSettings = .ok s) ∧ m.environment.value .databaseFolder = "" ∧
        m.isWindows none = true ∧ m.LosesBase e) ∧
    (∀ requests : List Service.Request, m.after (requests.map .request) = m ∧
      m.session (requests.map .request) = requests.map fun r => (Operation.request r).perform m) ∧
    ∀ requests responses,
      ((Operation.runService requests).perform m).answer = .ok (.responses responses) →
      (requests.map fun r => ((Operation.request r).perform m).answer) =
          (responses.map fun x => .ok (.response x)) ∧
        (∀ r, ((Operation.request r).perform m).records = []) ∧
        ∀ order : List Nat,
          ((Operation.runService (order.filterMap (requests[·]?))).perform m).answer =
            .ok (.responses (order.filterMap (responses[·]?))) := by
  refine ⟨fun r => ⟨rfl, records_perform_request_ne_nil_iff, fun e hr hs he =>
      ⟨answer_perform_request hr hs he, records_perform_request hr hs he⟩⟩,
    fun e => snapshot_breaks_iff,
    fun requests => ⟨after_requests m requests, session_requests m requests⟩,
    fun requests responses h => ?_⟩
  have hrun : (m.runService requests).answer = .ok responses :=
    (map_eq_ok_iff fun _ _ => Answer.responses.inj).mp h
  have hall := runService_of_responses hrun
  have hresponses : responses = requests.map fun r => (Service.answer m r).1 :=
    Except.ok.inj (hrun.symm.trans (hall requests))
  refine ⟨?_, fun r => ?_, fun order => ?_⟩
  · rw [hresponses, List.map_map]
    rfl
  · obtain ⟨settings, folder, hs, hf, -⟩ := responses_of_runService hrun
    obtain ⟨s, hsnapshot⟩ := exists_snapshot hs hf
    by_contra hne
    obtain ⟨-, e, he, -⟩ := records_perform_request_ne_nil_iff.mp hne
    rw [hsnapshot] at he
    cases he
  · refine (map_eq_ok_iff fun _ _ => Answer.responses.inj).mpr ?_
    rw [hall, hresponses, List.map_filterMap]
    simp only [List.getElem?_map]

/-- The working folder of a machine adrift cannot be told, and its report breaks; an outdated
machine answers, also in the other order and the first request twice. -/
theorem requests_do_not_interfere_adrift :
    Service.Request.AsksForReport ⟨"GET", "/config"⟩ ∧
      outdated.adrift.snapshot none = .error (.workingFolder .broken "lost") ∧
      ((Operation.request ⟨"GET", "/config"⟩).perform outdated.adrift).answer =
        .ok (.response brokenResponse) ∧
      ∃ x y,
        ((Operation.runService [⟨"GET", "/health"⟩, ⟨"GET", "/config"⟩]).perform outdated).answer =
          .ok (.responses [x, y]) ∧
        ((Operation.request ⟨"GET", "/config"⟩).perform outdated).answer = .ok (.response y) ∧
        ((Operation.runService [⟨"GET", "/config"⟩, ⟨"GET", "/health"⟩,
          ⟨"GET", "/health"⟩]).perform outdated).answer = .ok (.responses [y, x, x]) := by
  have hr : Service.Request.AsksForReport ⟨"GET", "/config"⟩ :=
    ⟨by decide +kernel, by decide +kernel⟩
  have hlost : outdated.adrift.snapshot none = .error (.workingFolder .broken "lost") := by
    decide +kernel
  have hm : outdated.openingMigration.answer = .ok .copied := by decide +kernel
  have hs : outdated.databaseSettings ≠ .error .incompleteDatabase := by decide +kernel
  have hrun : ∃ x y, (outdated.runService [⟨"GET", "/health"⟩, ⟨"GET", "/config"⟩]).answer =
      .ok [x, y] := by
    rw [answer_runService_of_ok hm]
    cases hsettings : outdated.databaseSettings with
    | error e => exact absurd (by rw [hsettings, databaseSettings_error hsettings]) hs
    | ok settings => exact ⟨_, _, rfl⟩
  obtain ⟨hbroken, -⟩ := requests_do_not_interfere outdated.adrift
  obtain ⟨-, -, -, hserved⟩ := requests_do_not_interfere outdated
  obtain ⟨x, y, hrun⟩ := hrun
  have hanswer := congrArg (·.map Answer.responses) hrun
  obtain ⟨halone, -, horder⟩ := hserved _ [x, y] hanswer
  have hconfig := (List.cons.inj (List.cons.inj halone).2).1
  exact ⟨hr, hlost, ((hbroken _).2.2 _ hr hlost (by decide)).1, x, y, hanswer, hconfig,
    horder [1, 0, 0]⟩

end PanelConfig.Machine
