import PanelConfig.Proofs.Json.Plain
import PanelConfig.Proofs.RunOptions
import PanelConfig.Proofs.Text.Quoted

/-! The ways in which a command line can end. Whatever the arguments are, the server is started, or
something is printed, or one of three things has gone wrong, and only `run` ever changes a variable.
A usage message is shown with all that is wrong in the arguments but for two faults of an option,
which the arguments themselves show. -/

namespace PanelConfig.CommandLine

/-! The faults that sorting finds. -/

/-- What the arguments show of a fault: an option without its value stands last among them, and a
value that is not wanted is joined to its flag. -/
inductive FaultIn (specs : List OptionSpec) (args : List String) : UsageFault → Prop
  | withUsage {fault : UsageFault} : fault.showsUsage = true → FaultIn specs args fault
  | missingValue {spec : OptionSpec} : spec ∈ specs → spec.value? ≠ none →
      [spec.name] <:+ args → FaultIn specs args (.missingValue spec.name)
  | needlessValue {spec : OptionSpec} {value : String} : spec ∈ specs → spec.value? = none →
      spec.name ++ "=" ++ value ∈ args → FaultIn specs args (.needlessValue spec.name)

theorem FaultIn.mono {specs : List OptionSpec} {args args' : List String} {fault : UsageFault}
    (h : FaultIn specs args fault) (ha : args <:+ args') : FaultIn specs args' fault := by
  cases h with
  | withUsage h => exact .withUsage h
  | missingValue hspec hvalue hlast => exact .missingValue hspec hvalue (hlast.trans ha)
  | needlessValue hspec hvalue hmem => exact .needlessValue hspec hvalue (ha.subset hmem)

theorem showsUsage_unknownOption (specs : List OptionSpec) (arg : String) :
    (unknownOption specs arg).showsUsage = true := by
  rw [unknownOption]
  split <;> rfl

theorem splitOption_cases (arg : String) :
    splitOption arg = (arg, none) ∨
      ∃ name value, splitOption arg = (name, some value) ∧ arg = name ++ "=" ++ value := by
  rw [splitOption]
  cases hcut : Text.cutAt? ['='] arg.toList with
  | none => exact .inl rfl
  | some parts =>
    obtain ⟨name, value⟩ := parts
    have hchars := Text.eq_append_of_cutAt? hcut
    refine .inr ⟨String.ofList name, String.ofList value, rfl, String.toList_injective ?_⟩
    simp [hchars]

theorem error_of_map {f : Arguments → Arguments} {x : Except UsageFault Arguments}
    {fault : UsageFault} (h : x.map f = .error fault) : x = .error fault := by
  cases x with
  | error e => exact congrArg Except.error (Except.error.inj h)
  | ok a => cases h

theorem faultIn_of_sortArguments {specs : List OptionSpec} {mixed : Bool} {args : List String}
    {fault : UsageFault} (h : sortArguments specs mixed args = .error fault) :
    FaultIn specs args fault := by
  fun_induction sortArguments specs mixed args with
  | case1 | case2 | case10 => cases h
  | case3 arg args =>
    cases h
    exact .withUsage (showsUsage_unknownOption specs arg)
  -- the fault lies in the arguments that follow, which stand at the end of all
  | case4 _ _ _ _ _ _ _ _ _ _ ih | case8 _ _ _ _ _ _ _ _ ih | case9 _ _ _ _ _ ih =>
    exact (ih (error_of_map h)).mono (List.suffix_cons _ _)
  | case6 _ _ _ _ _ _ _ _ _ _ ih =>
    exact (ih (error_of_map h)).mono ((List.suffix_cons _ _).trans (List.suffix_cons _ _))
  | case5 arg _ _ spec hfind takes hnone htakes =>
    cases h
    have hname : spec.name = arg := by
      rcases splitOption_cases arg with hsplit | ⟨name, value, hsplit, -⟩
      · rw [name_of_find? hfind, hsplit]
      · rw [hsplit] at hnone
        cases hnone
    subst hname
    exact .missingValue (List.mem_of_find?_eq_some hfind) (by simp [htakes]) List.suffix_rfl
  | case7 arg args _ _ spec hfind value hsome htakes =>
    cases h
    have hname : arg = spec.name ++ "=" ++ value := by
      rcases splitOption_cases arg with hsplit | ⟨name, value', hsplit, hjoined⟩
      · rw [hsplit] at hsome
        cases hsome
      · rw [hsplit] at hfind hsome
        cases hsome
        rw [name_of_find? hfind, hjoined]
    have hmem : spec.name ++ "=" ++ value ∈ arg :: args := by
      rw [← hname]
      exact List.mem_cons_self
    exact .needlessValue (List.mem_of_find?_eq_some hfind) htakes hmem

theorem ok_of_map {f : Arguments → Arguments} {x : Except UsageFault Arguments} {a : Arguments}
    (h : x.map f = .ok a) : ∃ b, x = .ok b ∧ f b = a := by
  cases x with
  | error e => cases h
  | ok b => exact ⟨b, rfl, Except.ok.inj h⟩

/-- Where words may not stand before options, what is left over is an end of the arguments. -/
theorem rest_suffix {specs : List OptionSpec} {args : List String} {a : Arguments}
    (h : sortArguments specs false args = .ok a) : a.rest <:+ args := by
  fun_induction sortArguments specs false args generalizing a with
  | case1 | case10 =>
    cases h
    exact List.suffix_rfl
  | case2 args =>
    cases h
    exact List.suffix_cons _ _
  | case3 | case5 | case7 => cases h
  | case4 _ _ _ _ _ _ _ _ _ _ ih | case8 _ _ _ _ _ _ _ _ ih =>
    obtain ⟨b, hb, rfl⟩ := ok_of_map h
    exact (ih hb).trans (List.suffix_cons _ _)
  | case6 _ _ _ _ _ _ _ _ _ _ ih =>
    obtain ⟨b, hb, rfl⟩ := ok_of_map h
    exact (ih hb).trans ((List.suffix_cons _ _).trans (List.suffix_cons _ _))
  | case9 _ _ _ _ hmixed => cases hmixed

/-! What is printed on a fault. -/

def flagNames : List String := ["--version", "--help", "--reload", "--debug", "--json"]

def allOptions : List OptionSpec :=
  panelOptions ++ Command.run.options ++ Command.show.options

/-- The text tells what is wrong in the arguments: it opens with the usage, or it is the one line on
an option without its value or on a flag with one. -/
def TellsFault (args : List String) (text : String) : Prop :=
  "Usage: x-ui".toList <+: text.toList ∨
  (∃ name ∈ runValues, [name] <:+ args ∧
    text = s!"Error: Option '{name}' requires an argument.\n") ∨
  ∃ name ∈ flagNames, ∃ value, name ++ "=" ++ value ∈ args ∧
    text = s!"Error: Option '{name}' does not take a value.\n"

theorem exists_usage (scope : Scope) : ∃ rest, scope.usage = "Usage: x-ui" ++ rest := by
  cases scope with
  | none => exact ⟨" [OPTIONS] COMMAND [ARGS]...\n", rfl⟩
  | some c =>
    cases c with
    | run => exact ⟨" run [OPTIONS]\n", rfl⟩
    | «show» => exact ⟨" show [OPTIONS]\n", rfl⟩

theorem streamed_usage {text rest : String} (h : text = "Usage: x-ui" ++ rest) :
    "Usage: x-ui".toList <+: (Text.streamed text).toList := by
  rw [h, Text.streamed_append (by decide), String.toList_append]
  exact List.prefix_append _ _

theorem complaint_usage {fault : UsageFault} (h : fault.showsUsage = true) (scope : Scope) :
    ∃ rest, scope.complaint fault = "Usage: x-ui" ++ rest := by
  obtain ⟨rest, hrest⟩ := exists_usage scope
  rw [Scope.complaint, if_pos h, hrest, String.append_assoc, String.append_assoc]
  exact ⟨_, rfl⟩

theorem complaint_of_not {fault : UsageFault} (h : fault.showsUsage = false) (scope : Scope) :
    scope.complaint fault = s!"Error: {fault.message}\n" := by
  rw [Scope.complaint, h, if_neg Bool.false_ne_true, String.empty_append]

theorem standsForItself_of_mem :
    ∀ name ∈ runValues ++ flagNames, name.toList.all Text.standsForItself = true := by
  decide

theorem stderr_of_message {fault : UsageFault} {name rest : String}
    (husage : fault.showsUsage = false)
    (hmessage : fault.message = "Option " ++ Text.quoted name ++ rest)
    (hname : name ∈ runValues ++ flagNames) (hrest : '\x1b' ∉ rest.toList) (scope : Scope) :
    (complain scope fault).stderr = "Error: Option '" ++ name ++ "'" ++ rest ++ "\n" := by
  have hall := standsForItself_of_mem name hname
  have htext : scope.complaint fault = "Error: Option '" ++ name ++ "'" ++ rest ++ "\n" := by
    rw [complaint_of_not husage, hmessage, Text.quoted_of_standsForItself hall]
    apply String.toList_injective
    simp [toString]
  rw [complain, Ending.failed, htext, Text.streamed_of_notMem]
  simpa [hrest] using Text.escape_notMem hall

theorem stderr_missingValue {name : String} (h : name ∈ runValues) (scope : Scope) :
    (complain scope (.missingValue name)).stderr =
      s!"Error: Option '{name}' requires an argument.\n" := by
  have hmem : name ∈ runValues ++ flagNames := List.mem_append_left _ h
  have hmessage : (UsageFault.missingValue name).message =
      "Option " ++ Text.quoted name ++ " requires an argument." := rfl
  rw [stderr_of_message rfl hmessage hmem (by decide)]
  apply String.toList_injective
  simp [toString]

theorem stderr_needlessValue {name : String} (h : name ∈ flagNames) (scope : Scope) :
    (complain scope (.needlessValue name)).stderr =
      s!"Error: Option '{name}' does not take a value.\n" := by
  have hmem : name ∈ runValues ++ flagNames := List.mem_append_right _ h
  have hmessage : (UsageFault.needlessValue name).message =
      "Option " ++ Text.quoted name ++ " does not take a value." := rfl
  rw [stderr_of_message rfl hmessage hmem (by decide)]
  apply String.toList_injective
  simp [toString]

theorem name_mem_of_mem_allOptions :
    ∀ spec ∈ allOptions, (spec.value? ≠ none → spec.name ∈ runValues) ∧
      (spec.value? = none → spec.name ∈ flagNames) := by
  decide

theorem tellsFault_of_faultIn {specs : List OptionSpec} {args : List String} {fault : UsageFault}
    (h : FaultIn specs args fault) (hspecs : specs ⊆ allOptions) (scope : Scope) :
    TellsFault args (complain scope fault).stderr := by
  cases h with
  | withUsage h =>
    obtain ⟨rest, hrest⟩ := complaint_usage h scope
    exact .inl (streamed_usage hrest)
  | @missingValue spec hspec hvalue hlast =>
    have hname := (name_mem_of_mem_allOptions spec (hspecs hspec)).1 hvalue
    exact .inr (.inl ⟨spec.name, hname, hlast, stderr_missingValue hname scope⟩)
  | @needlessValue spec value hspec hvalue hmem =>
    have hname := (name_mem_of_mem_allOptions spec (hspecs hspec)).2 hvalue
    exact .inr (.inr ⟨spec.name, hname, value, hmem, stderr_needlessValue hname scope⟩)

/-! The ways to end. -/

/-- The arguments ask for the server, with these options. -/
def AsksToRun (args : List String) (o : RunOptions) : Prop :=
  ∃ words a, sortArguments panelOptions false args = .ok ⟨[], Command.run.name :: words⟩ ∧
    sortArguments Command.run.options true words = .ok a ∧ a.has helpOption.name = false ∧
    RunOptions.ofArguments a = .ok o

inductive Way where
  | served
  | printed
  | refused
  | misused
  | brokenOff
  deriving DecidableEq

/-- What a command line leaves, by the way in which it ends. -/
def Way.Fits (m : Machine) (args : List String) (answer : Except Failure Ending)
    (after : Environment) : Way → Prop
  | .served => ∃ o stdout, AsksToRun args o ∧
      answer = .ok ⟨0, stdout, "", [⟨o.host, o.port, o.reload⟩]⟩ ∧
      ('\x1b' ∉ m.name.toList → '\x1b' ∉ m.version.toList → '\x1b' ∉ o.host.toList →
        stdout = s!"Starting {m.name} {m.version} on {o.host}:{o.port}\n") ∧
      after = o.exported m.environment
  | .printed => ∃ stdout, answer = .ok ⟨0, stdout, "", []⟩ ∧ after = m.environment
  | .refused => ∃ stderr, answer = .ok ⟨1, "", stderr, []⟩ ∧ after = m.environment ∧
      m.databaseSettings = .error .incompleteDatabase
  | .misused => ∃ stderr, answer = .ok ⟨2, "", stderr, []⟩ ∧ after = m.environment ∧
      TellsFault args stderr
  | .brokenOff =>
    (∃ o, AsksToRun args o ∧ o.HasNull ∧ answer = .error .nullCharacter ∧
      ∀ name, after.find? name =
        if name = "XUI_DEBUG" ∧ o.debug = true then some "true"
        else if name = "XUI_LOG_LEVEL" ∧ o.level ≠ "" ∧ '\x00' ∉ o.level.toList then some o.level
        else m.environment.find? name) ∨
    ∃ e, m.snapshot none = .error e ∧ e ≠ .incompleteDatabase ∧ answer = .error e ∧
      after = m.environment

variable {m : Machine} {args : List String} {answer : Except Failure Ending} {after : Environment}

theorem streamed_banner {o : RunOptions} (hname : '\x1b' ∉ m.name.toList)
    (hversion : '\x1b' ∉ m.version.toList) (hhost : '\x1b' ∉ o.host.toList) :
    Text.streamed (banner m o) = banner m o := by
  apply Text.streamed_of_notMem
  have hport : '\x1b' ∉ (toString o.port).toList := fun hmem =>
    absurd (Json.plain_toString o.port _ hmem) (by decide)
  unfold banner
  simp only [String.toList_append, List.mem_append, not_or]
  exact ⟨⟨⟨⟨⟨⟨⟨⟨by decide, hname⟩, by decide⟩, hversion⟩, by decide⟩, hhost⟩, by decide⟩, hport⟩,
    by decide⟩

/-- The variables that are set before a null character: debugging, and the level unless it holds the
null character itself. -/
theorem find?_beforeNull (o : RunOptions) (e : Environment) (name : String) :
    (o.beforeNull.exported e).find? name =
      if name = "XUI_DEBUG" ∧ o.debug = true then some "true"
      else if name = "XUI_LOG_LEVEL" ∧ o.level ≠ "" ∧ '\x00' ∉ o.level.toList then some o.level
      else e.find? name := by
  have hfolder : o.beforeNull.databaseFolder = "" := rfl
  have hdebug : o.beforeNull.debug = o.debug := rfl
  have hlevel : o.beforeNull.level = if '\x00' ∈ o.level.toList then "" else o.level := rfl
  rw [find?_exported, hfolder, hdebug, hlevel]
  by_cases hnull : '\x00' ∈ o.level.toList
  · simp [hnull]
  · simp [hnull]

theorem exists_fits_startServer {o : RunOptions} (h : AsksToRun args o) :
    ∃ way, Way.Fits m args (startServer m o).1 (startServer m o).2 way := by
  by_cases hnull : o.HasNull
  · rw [startServer_of_hasNull hnull]
    exact ⟨.brokenOff, .inl ⟨o, h, hnull, rfl, find?_beforeNull o _⟩⟩
  · rw [startServer_of_not hnull]
    exact ⟨.served, o, _, h, rfl, streamed_banner, rfl⟩

theorem exists_fits_showSnapshot (m : Machine) (args : List String) (asJson : Bool) :
    ∃ way, Way.Fits m args (showSnapshot m asJson) m.environment way := by
  rw [showSnapshot]
  split
  · next h => exact ⟨.refused, _, rfl, rfl, Machine.databaseSettings_of_snapshot h⟩
  · next e hne h => exact ⟨.brokenOff, .inr ⟨e, h, hne, rfl, rfl⟩⟩
  · split
    · exact ⟨.printed, _, rfl, rfl⟩
    · exact ⟨.printed, _, rfl, rfl⟩

theorem fits_complain {specs : List OptionSpec} {fault : UsageFault} (h : FaultIn specs args fault)
    (hspecs : specs ⊆ allOptions) (scope : Scope) :
    Way.Fits m args (.ok (complain scope fault)) m.environment .misused :=
  ⟨_, rfl, rfl, tellsFault_of_faultIn h hspecs scope⟩

theorem showsUsage_ofArguments {a : Arguments} {fault : UsageFault}
    (h : RunOptions.ofArguments a = .error fault) : fault.showsUsage = true := by
  rw [RunOptions.ofArguments] at h
  cases hport : RunOptions.portOf a with
  | error e =>
    rw [hport] at h
    cases h
    rw [RunOptions.portOf] at hport
    split at hport
    · cases hport
    · split at hport
      · cases hport
      · cases hport
        rfl
  | ok port =>
    rw [hport] at h
    simp only [Except.bind] at h
    split at h
    · cases h
      rfl
    · cases h

theorem options_subset (c : Command) : c.options ⊆ allOptions := by
  intro spec hspec
  cases c with
  | run => exact List.mem_append_left _ (List.mem_append_right _ hspec)
  | «show» => exact List.mem_append_right _ hspec

theorem exists_fits_performCommand {c : Command} {words : List String}
    (h : sortArguments panelOptions false args = .ok ⟨[], c.name :: words⟩) :
    ∃ way, Way.Fits m args (performCommand m c words).1 (performCommand m c words).2 way := by
  have hwords : words <:+ args := (List.suffix_cons _ _).trans (rest_suffix h)
  rw [performCommand]
  cases hsort : sortArguments c.options true words with
  | error fault =>
    have hfault := (faultIn_of_sortArguments hsort).mono hwords
    exact ⟨.misused, fits_complain hfault (options_subset c) _⟩
  | ok a =>
    simp only
    split
    · exact ⟨.printed, _, rfl, rfl⟩
    next hhelp =>
    cases c with
    | run =>
      cases ho : RunOptions.ofArguments a with
      | error fault =>
        have husage := showsUsage_ofArguments ho
        exact ⟨.misused, fits_complain (.withUsage husage) (options_subset .run) _⟩
      | ok o =>
        exact exists_fits_startServer ⟨words, a, h, hsort, by simpa using hhelp, ho⟩
    | «show» =>
      simp only
      split
      · exact ⟨.misused, fits_complain (.withUsage rfl) (options_subset .show) _⟩
      · exact exists_fits_showSnapshot m args _

theorem name_of_ofName? {word : String} {c : Command} (h : Command.ofName? word = some c) :
    c.name = word := by
  simpa using List.find?_some h

theorem panelOptions_subset : panelOptions ⊆ allOptions := fun _ hspec =>
  List.mem_append_left _ (List.mem_append_left _ hspec)

theorem fits_panelRequest {a : Arguments} {ending : Ending} (h : panelRequest? a = some ending) :
    Way.Fits m args (.ok ending) m.environment .printed := by
  rw [panelRequest?] at h
  obtain ⟨o, -, rfl⟩ := Option.map_eq_some_iff.mp h
  split
  · exact ⟨_, rfl, rfl⟩
  · exact ⟨_, rfl, rfl⟩

theorem given_of_panelRequest? {a : Arguments} (h : panelRequest? a = none) : a.given = [] := by
  simpa [panelRequest?] using h

theorem stderr_help :
    "Usage: x-ui".toList <+: (Ending.failed 2 (Scope.help none)).stderr.toList := by
  obtain ⟨rest, hrest⟩ := exists_usage none
  have hhelp : ∃ rest, Scope.help none = "Usage: x-ui" ++ rest := by
    show ∃ rest, Scope.usage none ++ _ ++ _ ++ _ ++ _ = "Usage: x-ui" ++ rest
    rw [hrest, String.append_assoc, String.append_assoc, String.append_assoc, String.append_assoc]
    exact ⟨_, rfl⟩
  obtain ⟨rest, hrest⟩ := hhelp
  exact streamed_usage hrest

theorem exists_fits_unknownCommand {word : String} {words : List String}
    (h : word :: words <:+ args) :
    ∃ way, Way.Fits m args (.ok (unknownCommand word words)) m.environment way := by
  rw [unknownCommand]
  cases hsort : sortArguments panelOptions false (word :: words) with
  | error fault =>
    have hfault := (faultIn_of_sortArguments hsort).mono h
    exact ⟨.misused, fits_complain hfault panelOptions_subset none⟩
  | ok a =>
    cases hrequest : panelRequest? a with
    | some ending =>
      simp only [hrequest, Option.getD_some]
      exact ⟨.printed, fits_panelRequest hrequest⟩
    | none =>
      simp only [hrequest, Option.getD_none]
      exact ⟨.misused, fits_complain (.withUsage rfl) panelOptions_subset none⟩

theorem exists_fits_perform (m : Machine) (args : List String) :
    ∃ way, Way.Fits m args (perform m args).1 (perform m args).2 way := by
  rw [perform]
  split
  · exact ⟨.misused, _, rfl, rfl, .inl stderr_help⟩
  cases hsort : sortArguments panelOptions false args with
  | error fault =>
    exact ⟨.misused, fits_complain (faultIn_of_sortArguments hsort) panelOptions_subset none⟩
  | ok a =>
    have hrest := rest_suffix hsort
    obtain ⟨given, rest⟩ := a
    cases hrequest : panelRequest? ⟨given, rest⟩ with
    | some ending =>
      simp only [hrequest]
      exact ⟨.printed, fits_panelRequest hrequest⟩
    | none =>
      obtain rfl : given = [] := given_of_panelRequest? hrequest
      simp only [hrequest]
      cases rest with
      | nil => exact ⟨.misused, fits_complain (.withUsage rfl) panelOptions_subset none⟩
      | cons word words =>
        simp only
        cases hname : Command.ofName? word with
        | some c =>
          rw [← name_of_ofName? hname] at hsort
          exact exists_fits_performCommand hsort
        | none => exact exists_fits_unknownCommand hrest

end PanelConfig.CommandLine
