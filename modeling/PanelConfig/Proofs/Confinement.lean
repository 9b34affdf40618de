import PanelConfig.Proofs.Endings
import PanelConfig.Proofs.Environment
import PanelConfig.Proofs.Preservation
import PanelConfig.Proofs.Restart

/-! What an operation can change, whether it succeeds or fails. The threshold is what the last
operation has made of it that puts a level into effect, a variable is what some operation has made
of it, and the disk is left alone by all but the operations that write on it. -/

namespace PanelConfig

open CommandLine (AsksToRun RunOptions)

namespace Operation

/-- The level that an operation puts into effect on a machine. -/
def levelSet? (m : Machine) : Operation → Option Severity
  | .setUpLog choice => some choice.applied
  | .runService _ => some m.levelChoice.applied
  | _ => none

/-- The operation gives a variable a value, or takes it away. -/
inductive Assigns : Operation → String → Option String → Prop
  | change {c : MachineChange} {name value : String} : (name, value) ∈ c.environment →
      Assigns (.change c) name (some value)
  | unset {name : String} : Assigns (.unset name) name none
  | debug {args : List String} {o : RunOptions} : AsksToRun args o → o.debug = true →
      Assigns (.commandLine args) "XUI_DEBUG" (some "true")
  | level {args : List String} {o : RunOptions} : AsksToRun args o → o.level ≠ "" →
      Assigns (.commandLine args) "XUI_LOG_LEVEL" (some o.level)
  | folder {args : List String} {o : RunOptions} : AsksToRun args o → o.databaseFolder ≠ "" →
      Assigns (.commandLine args) "XUI_DB_FOLDER" (some o.databaseFolder)

/-- The operation does not write on the disk. -/
def leavesDisk : Operation → Bool
  | .migrate .. | .runService _ => false
  | op => op.sparesDisk

end Operation

namespace Machine

variable {m : Machine} {op : Operation} {name : String}

/-! One operation. -/

theorem machine_perform (m : Machine) (op : Operation) :
    (op.perform m).machine = (op.emit m).machine := rfl

theorem threshold_perform (m : Machine) (op : Operation) :
    (op.perform m).machine.threshold = (op.levelSet? m).getD m.threshold := by
  cases op with
  | runService requests => rw [machine_perform_runService, started, withLevel, Operation.levelSet?,
      Option.getD_some]
  | _ => simp only [machine_perform, Operation.emit, Operation.reading, Operation.trying, changed,
      withLevel, Operation.levelSet?, Option.getD_none, Option.getD_some]

theorem find?_perform_commandLine (m : Machine) (args : List String) (name : String) :
    (CommandLine.perform m args).2.find? name = m.environment.find? name ∨
      (Operation.commandLine args).Assigns name ((CommandLine.perform m args).2.find? name) := by
  obtain ⟨way, h⟩ := CommandLine.exists_fits_perform m args
  cases way with
  | served =>
    obtain ⟨o, _, hrun, -, -, he⟩ := h
    rw [he, CommandLine.find?_exported]
    split
    · next h =>
      obtain ⟨rfl, hdebug⟩ := h
      exact .inr (.debug hrun hdebug)
    split
    · next h =>
      obtain ⟨rfl, hlevel⟩ := h
      exact .inr (.level hrun hlevel)
    split
    · next h =>
      obtain ⟨rfl, hfolder⟩ := h
      exact .inr (.folder hrun hfolder)
    · exact .inl rfl
  | brokenOff =>
    obtain ⟨o, hrun, -, -, he⟩ | ⟨_, -, -, -, he⟩ := h
    · rw [he]
      split
      · next h =>
        obtain ⟨rfl, hdebug⟩ := h
        exact .inr (.debug hrun hdebug)
      split
      · next h =>
        obtain ⟨rfl, hlevel, -⟩ := h
        exact .inr (.level hrun hlevel)
      · exact .inl rfl
    · rw [he]
      exact .inl rfl
  | printed =>
    obtain ⟨_, -, he⟩ := h
    exact .inl (by rw [he])
  | refused | misused =>
    obtain ⟨_, -, he, -⟩ := h
    exact .inl (by rw [he])

/-- After an operation a variable is what it was, or what the operation has made of it. -/
theorem find?_perform (m : Machine) (op : Operation) (name : String) :
    (op.perform m).machine.environment.find? name = m.environment.find? name ∨
      op.Assigns name ((op.perform m).machine.environment.find? name) := by
  rw [machine_perform]
  cases op with
  | commandLine args => exact find?_perform_commandLine m args name
  | unset other =>
    simp only [Operation.emit, Operation.reading, Environment.find?_unset]
    split
    · next h =>
      subst h
      exact .inr .unset
    · exact .inl rfl
  | change c =>
    simp only [Operation.emit, Operation.reading, changed]
    rcases m.environment.find?_foldl_set c.environment name with h | ⟨v, hmem, h⟩
    · exact .inl h
    · rw [h]
      exact .inr (.change hmem)
  | runService requests =>
    rw [← machine_perform, machine_perform_runService]
    exact .inl rfl
  | _ => simp only [Operation.emit, Operation.reading, Operation.trying, withLevel, true_or]

/-- The options of a command line that assigns no variable. -/
theorem options_of_not {args : List String} {o : RunOptions} (hrun : AsksToRun args o)
    (h : ∀ name value, ¬(Operation.commandLine args).Assigns name value) :
    o.debug = false ∧ o.level = "" ∧ o.databaseFolder = "" := by
  refine ⟨?_, ?_, ?_⟩
  · rw [← Bool.not_eq_true]
    exact fun hdebug => h _ _ (.debug hrun hdebug)
  · by_contra hlevel
    exact h _ _ (.level hrun hlevel)
  · by_contra hfolder
    exact h _ _ (.folder hrun hfolder)

theorem environment_commandLine {args : List String}
    (h : ∀ name value, ¬(Operation.commandLine args).Assigns name value) :
    (CommandLine.perform m args).2 = m.environment := by
  obtain ⟨way, hway⟩ := CommandLine.exists_fits_perform m args
  cases way with
  | served =>
    obtain ⟨o, _, hrun, -, -, he⟩ := hway
    obtain ⟨hdebug, hlevel, hfolder⟩ := options_of_not hrun h
    rw [he, CommandLine.RunOptions.exported, CommandLine.RunOptions.exports, hdebug, hlevel,
      hfolder]
    rfl
  | brokenOff =>
    obtain ⟨o, hrun, hnull, -, -⟩ | ⟨_, -, -, -, he⟩ := hway
    · -- the text that holds the null character is empty
      obtain ⟨-, hlevel, hfolder⟩ := options_of_not hrun h
      rw [CommandLine.RunOptions.HasNull, hlevel, hfolder] at hnull
      simp at hnull
    · exact he
  | printed =>
    obtain ⟨_, -, he⟩ := hway
    exact he
  | refused | misused =>
    obtain ⟨_, -, he, -⟩ := hway
    exact he

/-- An operation that assigns no variable leaves the environment. -/
theorem environment_perform (h : ∀ name value, ¬op.Assigns name value) :
    (op.perform m).machine.environment = m.environment := by
  rw [machine_perform]
  cases op with
  | commandLine args => exact environment_commandLine h
  | unset other => exact absurd .unset (h other none)
  | change c =>
    have hc : c.environment = [] :=
      List.eq_nil_iff_forall_not_mem.mpr fun _ hmem => h _ _ (.change hmem)
    simp only [Operation.emit, Operation.reading, changed, hc, List.foldl_nil]
  | runService requests => rw [← machine_perform, machine_perform_runService, started, withLevel]
  | _ => simp only [Operation.emit, Operation.reading, Operation.trying, withLevel]

theorem disk_perform (h : op.leavesDisk = true) : (op.perform m).machine.disk = m.disk := by
  rw [machine_perform]
  cases op with
  | migrate | runService | copyFile | takeAway => cases h
  | change c =>
    have hc : c.items = [] := List.isEmpty_iff.mp h
    simp only [Operation.emit, Operation.reading, changed, hc, List.foldl_nil]
  | _ => simp only [Operation.emit, Operation.reading, Operation.trying, withLevel]

/-! Many operations. -/

/-- The levels that operations put into effect, in order. -/
def levelsSet (m : Machine) : List Operation → List Severity
  | [] => []
  | op :: ops => (op.levelSet? m).toList ++ (op.perform m).machine.levelsSet ops

/-- The threshold is the level that was put into effect last. -/
theorem threshold_after (m : Machine) (ops : List Operation) :
    (m.after ops).threshold = (m.levelsSet ops).getLast?.getD m.threshold := by
  induction ops generalizing m with
  | nil => rfl
  | cons op ops ih =>
    rw [after_cons, ih, threshold_perform, levelsSet]
    cases op.levelSet? m with
    | none => rw [Option.toList_none, List.nil_append, Option.getD_none]
    | some t => rw [Option.toList_some, List.singleton_append, List.getLast?_cons, Option.getD_some,
        Option.getD_some]

/-- After many operations a variable is what it was, or what one of them has made of it. -/
theorem find?_after (m : Machine) (ops : List Operation) (name : String) :
    (m.after ops).environment.find? name = m.environment.find? name ∨
      ∃ op ∈ ops, op.Assigns name ((m.after ops).environment.find? name) := by
  induction ops generalizing m with
  | nil => exact .inl rfl
  | cons op ops ih =>
    rw [after_cons]
    rcases ih (op.perform m).machine with h | ⟨later, hmem, h⟩
    · rw [h]
      rcases find?_perform m op name with hop | hop
      · exact .inl hop
      · exact .inr ⟨op, List.mem_cons_self, hop⟩
    · exact .inr ⟨later, List.mem_cons_of_mem _ hmem, h⟩

theorem disk_after {ops : List Operation} (h : ∀ op ∈ ops, op.leavesDisk = true) :
    (m.after ops).disk = m.disk := by
  induction ops generalizing m with
  | nil => rfl
  | cons op ops ih =>
    rw [after_cons, ih fun later hmem => h later (List.mem_cons_of_mem _ hmem),
      disk_perform (h op List.mem_cons_self)]

theorem rank_mem (t : Severity) : t.rank ∈ [10, 20, 30, 40] := by
  cases t <;> decide

theorem after_take_succ {ops : List Operation} {i : Nat} (h : ops[i]? = some op) :
    m.after (ops.take (i + 1)) = (op.perform (m.after (ops.take i))).machine := by
  rw [List.take_add_one, h, Option.toList_some, after_append, after_cons, after_nil]

/-- Effects are confined. At each point of a session the threshold is one of four, and the level
that was put into effect last, by setting up the log or by starting the service, though the start
may have failed; before that it is what it was at first, on a fresh machine that for warnings. A
variable is what it was at first or what an operation before has made of it that assigns it: a
change, an unset, or a command line that asks to run, which assigns three variables only. The disk
is as it was at first unless an operation before writes on it. And each step leaves each of the
three for which the operation is none of these as it was, whether it succeeds or fails. -/
theorem effects_confined (m : Machine) (ops : List Operation) (i : Nat) :
    let now := m.after (ops.take i)
    (now.threshold.rank ∈ [10, 20, 30, 40] ∧
      now.threshold = (m.levelsSet (ops.take i)).getLast?.getD m.threshold) ∧
    (∀ name, now.environment.find? name = m.environment.find? name ∨
      ∃ op ∈ ops.take i, op.Assigns name (now.environment.find? name)) ∧
    ((∀ op ∈ ops.take i, op.leavesDisk = true) → now.disk = m.disk) ∧
    (∀ op, ops[i]? = some op →
      let next := m.after (ops.take (i + 1))
      (op.levelSet? now = none → next.threshold = now.threshold) ∧
      (∀ name, next.environment.find? name ≠ now.environment.find? name →
        op.Assigns name (next.environment.find? name)) ∧
      ((∀ name value, ¬op.Assigns name value) → next.environment = now.environment) ∧
      (op.leavesDisk = true → next.disk = now.disk)) ∧
    ∀ c, m = fresh.changed c → m.threshold.rank = 30 := by
  intro now
  refine ⟨⟨rank_mem _, threshold_after m _⟩, find?_after m _, disk_after, fun op hop => ?_, ?_⟩
  · intro next
    have hnext : next = (op.perform now).machine := after_take_succ hop
    rw [hnext]
    refine ⟨fun h => ?_, fun name => (find?_perform now op name).resolve_left,
      environment_perform, disk_perform⟩
    rw [threshold_perform, h, Option.getD_none]
  · rintro c rfl
    rfl

/-- A session in which the log is set up, a command line sets the level, and a start of the service
fails for want of a server for the database. -/
def strandedSession : List Operation :=
  [.setUpLog (.written "debug"), .commandLine ["run", "--log-level", "error"],
    .change { environment := [("XUI_DB_CONNECTION", "mysql")] }, .runService [],
    .request ⟨"GET", "/config"⟩]

theorem effects_confined_stranded :
    fresh.threshold.rank = 30 ∧
      ((fresh.after (strandedSession.take 3)).runService []).answer = .error (.exit 1) ∧
      fresh.levelsSet (strandedSession.take 4) = [.debug, .error] ∧
      (fresh.after (strandedSession.take 4)).threshold = .error ∧
      (∀ name value, ¬(Operation.request ⟨"GET", "/config"⟩).Assigns name value) ∧
      (fresh.after strandedSession).threshold = .error ∧
      (fresh.after strandedSession).environment =
        (fresh.after (strandedSession.take 4)).environment ∧
      (fresh.after strandedSession).disk = (fresh.after (strandedSession.take 4)).disk := by
  have hfails :
      ((fresh.after (strandedSession.take 3)).runService []).answer = .error (.exit 1) := by
    decide +kernel
  have hlevels : fresh.levelsSet (strandedSession.take 4) = [.debug, .error] := by decide +kernel
  have hassigns : ∀ name value,
      ¬(Operation.request ⟨"GET", "/config"⟩).Assigns name value := by
    intro name value h
    cases h
  obtain ⟨⟨-, hthreshold⟩, -, -, hstep, hfresh⟩ := effects_confined fresh strandedSession 4
  rw [hlevels] at hthreshold
  obtain ⟨hlevel, -, henvironment, hdisk⟩ := hstep _ rfl
  exact ⟨hfresh {} rfl, hfails, hlevels, hthreshold, hassigns, (hlevel rfl).trans hthreshold,
    henvironment hassigns, hdisk rfl⟩

end Machine

end PanelConfig
