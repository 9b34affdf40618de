import PanelConfig.CommandLine

/-! From a command line to the command it is about, from the options of a command to their values,
and from what two machines have in common to what a command line has in common on both. -/

namespace PanelConfig.CommandLine

/-- A word ends the options where words may not stand before them. -/
theorem sortArguments_word {specs : List OptionSpec} {word : String} (h : isOption word = false)
    (hd : word ≠ "--") (args : List String) :
    sortArguments specs false (word :: args) = .ok ⟨[], word :: args⟩ := by
  rw [sortArguments, if_neg hd]
  simp [h]

theorem perform_command (m : Machine) (c : Command) (args : List String) :
    perform m (c.name :: args) = performCommand m c args := by
  have hsort : sortArguments panelOptions false (c.name :: args) = .ok ⟨[], c.name :: args⟩ := by
    cases c with
    | run => exact sortArguments_word (by decide) (by decide) args
    | «show» => exact sortArguments_word (by decide) (by decide) args
  have hname : Command.ofName? c.name = some c := by
    cases c with
    | run => decide
    | «show» => decide
  rw [perform, if_neg (by simp), hsort]
  simp only [panelRequest?, List.head?_nil, Option.map_none, hname]

theorem perform_show (m : Machine) (asJson : Bool) :
    perform m (Command.show.name :: if asJson then ["--json"] else []) =
      (showSnapshot m asJson, m.environment) := by
  rw [perform_command]
  cases asJson with
  | false => rfl
  | true => rfl

/-- An option as it is given: a flag, or an option with its value in an argument of its own or
joined to it by an equals sign. -/
inductive OptionUse where
  | flag (name : String)
  | apart (name value : String)
  | joined (name value : String)
  deriving DecidableEq, Repr

namespace OptionUse

def name : OptionUse → String
  | .flag name | .apart name _ | .joined name _ => name

/-- The value of the option; that of a flag is empty. -/
def value : OptionUse → String
  | .flag _ => ""
  | .apart _ value | .joined _ value => value

def isFlag : OptionUse → Bool
  | .flag _ => true
  | .apart .. | .joined .. => false

/-- The arguments that give the option. -/
def words : OptionUse → List String
  | .flag name => [name]
  | .apart name value => [name, value]
  | .joined name value => [name ++ "=" ++ value]

end OptionUse

/-- The name can be told from a word, from the end of the options and from its value. -/
structure IsOptionName (name : String) : Prop where
  isOption : isOption name = true
  notEnd : name ≠ "--"
  noEquals : '=' ∉ name.toList

namespace IsOptionName

variable {name : String}

theorem splitOption_name (h : IsOptionName name) : splitOption name = (name, none) := by
  rw [splitOption, Text.cutAt?_of_notMem h.noEquals]

theorem splitOption_joined (h : IsOptionName name) (value : String) :
    splitOption (name ++ "=" ++ value) = (name, some value) := by
  have hcut := Text.cutAt?_append h.noEquals value.toList
  have htext : (name ++ "=" ++ value).toList = name.toList ++ '=' :: value.toList := by simp
  rw [splitOption, htext, hcut]
  simp only [String.ofList_toList]

theorem isOption_joined (h : IsOptionName name) (value : String) :
    CommandLine.isOption (name ++ "=" ++ value) = true := by
  have hoption := h.isOption
  rw [CommandLine.isOption] at hoption ⊢
  have htext : (name ++ "=" ++ value).toList = name.toList ++ '=' :: value.toList := by simp
  rw [htext]
  split at hoption
  · next hchars => rw [hchars]; rfl
  · cases hoption

end IsOptionName

theorem joined_ne_end (name value : String) : name ++ "=" ++ value ≠ "--" := by
  intro heq
  have hmem : '=' ∈ (name ++ "=" ++ value).toList := by simp
  rw [heq] at hmem
  exact absurd hmem (by decide)

section

variable {specs : List OptionSpec} {spec : OptionSpec} {name : String}

theorem name_of_find? (h : specs.find? (fun s => s.name = name) = some spec) :
    spec.name = name := by
  simpa using List.find?_some h

theorem sortArguments_flag (hname : IsOptionName name)
    (hspec : specs.find? (fun s => s.name = name) = some spec) (hvalue : spec.value? = none)
    (mixed : Bool) (args : List String) :
    sortArguments specs mixed (name :: args) =
      (sortArguments specs mixed args).map (·.withOption name "") := by
  rw [sortArguments, if_neg hname.notEnd, if_pos hname.isOption, hname.splitOption_name, hspec]
  simp only [hvalue, name_of_find? hspec]

theorem sortArguments_apart (hname : IsOptionName name)
    (hspec : specs.find? (fun s => s.name = name) = some spec) (hvalue : spec.value? ≠ none)
    (mixed : Bool) (value : String) (args : List String) :
    sortArguments specs mixed (name :: value :: args) =
      (sortArguments specs mixed args).map (·.withOption name value) := by
  obtain ⟨text, htext⟩ := Option.ne_none_iff_exists'.mp hvalue
  rw [sortArguments, if_neg hname.notEnd, if_pos hname.isOption, hname.splitOption_name, hspec]
  simp only [htext, name_of_find? hspec]

theorem sortArguments_joined (hname : IsOptionName name)
    (hspec : specs.find? (fun s => s.name = name) = some spec) (hvalue : spec.value? ≠ none)
    (mixed : Bool) (value : String) (args : List String) :
    sortArguments specs mixed ((name ++ "=" ++ value) :: args) =
      (sortArguments specs mixed args).map (·.withOption name value) := by
  obtain ⟨text, htext⟩ := Option.ne_none_iff_exists'.mp hvalue
  rw [sortArguments, if_neg (joined_ne_end name value), if_pos (hname.isOption_joined value),
    hname.splitOption_joined, hspec]
  simp only [htext, name_of_find? hspec]

end

/-- The option is known, and is given a value if it takes one. -/
structure OptionUse.FitsIn (specs : List OptionSpec) (u : OptionUse) : Prop where
  isOptionName : IsOptionName u.name
  known : ∃ spec, specs.find? (fun s => s.name = u.name) = some spec ∧
    (spec.value? = none ↔ u.isFlag = true)

theorem sortArguments_use {specs : List OptionSpec} {u : OptionUse} (h : u.FitsIn specs)
    (mixed : Bool) (args : List String) :
    sortArguments specs mixed (u.words ++ args) =
      (sortArguments specs mixed args).map (·.withOption u.name u.value) := by
  obtain ⟨hname, spec, hspec, hvalue⟩ := h
  cases u with
  | flag name => exact sortArguments_flag hname hspec (hvalue.mpr rfl) mixed args
  | apart name value =>
    have htakes : spec.value? ≠ none := by
      intro hnone
      cases hvalue.mp hnone
    exact sortArguments_apart hname hspec htakes mixed value args
  | joined name value =>
    have htakes : spec.value? ≠ none := by
      intro hnone
      cases hvalue.mp hnone
    exact sortArguments_joined hname hspec htakes mixed value args

/-- Options that fit are all found, in order, with nothing left over. -/
theorem sortArguments_uses {specs : List OptionSpec} {uses : List OptionUse}
    (h : ∀ u ∈ uses, u.FitsIn specs) (mixed : Bool) :
    sortArguments specs mixed (uses.flatMap OptionUse.words) =
      .ok ⟨uses.map fun u => (u.name, u.value), []⟩ := by
  induction uses with
  | nil => rfl
  | cons u uses ih =>
    have hu := h u List.mem_cons_self
    rw [List.flatMap_cons, sortArguments_use hu, ih fun v hv => h v (List.mem_cons_of_mem u hv)]
    rfl

/-! One command line on two machines, whose environments may differ. -/

/-- The settings whose variables `run` may set. -/
def runSettings : List Setting := [.debug, .logLevel, .databaseFolder]

theorem mem_runSettings {o : RunOptions} {x : Setting × String} (h : x ∈ o.exports) :
    x.1 ∈ runSettings := by
  rw [RunOptions.exports] at h
  exact List.mem_map_of_mem (List.mem_filter.mp h).1

/-- What two environments have in common is left alone where `run` sets a variable in both. -/
def KeptByRun (R : Environment → Environment → Prop) : Prop :=
  ∀ s ∈ runSettings, ∀ v e₁ e₂, R e₁ e₂ →
    R (e₁.set s.variableName v) (e₂.set s.variableName v)

section

variable {R : Environment → Environment → Prop} {m₁ m₂ : Machine}

theorem assignAll_alike (hR : KeptByRun R) (xs : List (Setting × String))
    (hxs : ∀ x ∈ xs, x.1 ∈ runSettings) {e₁ e₂ : Environment} (h : R e₁ e₂) :
    (assignAll xs e₁).1 = (assignAll xs e₂).1 ∧ R (assignAll xs e₁).2 (assignAll xs e₂).2 := by
  induction xs generalizing e₁ e₂ with
  | nil => exact ⟨rfl, h⟩
  | cons x xs ih =>
    obtain ⟨s, v⟩ := x
    simp only [assignAll, Environment.assign]
    by_cases hv : v.toList.contains '\x00' = true
    · simp only [if_pos hv]
      exact ⟨trivial, h⟩
    · simp only [if_neg hv]
      exact ih (fun x hx => hxs x (List.mem_cons_of_mem _ hx))
        (hR s (hxs (s, v) List.mem_cons_self) v e₁ e₂ h)

theorem startServer_alike (hR : KeptByRun R) (he : R m₁.environment m₂.environment)
    (hn : m₁.name = m₂.name) (hv : m₁.version = m₂.version) (o : RunOptions) :
    (startServer m₁ o).1 = (startServer m₂ o).1 ∧
      R (startServer m₁ o).2 (startServer m₂ o).2 := by
  obtain ⟨hr, he⟩ := assignAll_alike hR o.exports (fun _ => mem_runSettings) he
  have hb : banner m₁ o = banner m₂ o := by
    unfold banner
    rw [hn, hv]
  rw [startServer, startServer, hb]
  generalize assignAll o.exports m₁.environment = r₁ at hr he
  generalize assignAll o.exports m₂.environment = r₂ at hr he
  obtain ⟨a₁, e₁⟩ := r₁
  obtain ⟨a₂, e₂⟩ := r₂
  cases hr
  cases a₁ with
  | error e => exact ⟨rfl, he⟩
  | ok u => exact ⟨rfl, he⟩

theorem performCommand_alike (hR : KeptByRun R) (he : R m₁.environment m₂.environment)
    (hn : m₁.name = m₂.name) (hv : m₁.version = m₂.version)
    (hs : m₁.snapshot none = m₂.snapshot none) (c : Command) (args : List String) :
    (performCommand m₁ c args).1 = (performCommand m₂ c args).1 ∧
      R (performCommand m₁ c args).2 (performCommand m₂ c args).2 := by
  simp only [performCommand]
  split
  · exact ⟨rfl, he⟩
  · split
    · exact ⟨rfl, he⟩
    · cases c with
      | run =>
        simp only
        split
        · exact ⟨rfl, he⟩
        · exact startServer_alike hR he hn hv _
      | «show» =>
        simp only
        split
        · exact ⟨rfl, he⟩
        · exact ⟨by rw [showSnapshot, showSnapshot, hs], he⟩

/-- The command line reads the name, the version and the report, and the environment only to set
variables in it. -/
theorem perform_alike (hR : KeptByRun R) (he : R m₁.environment m₂.environment)
    (hn : m₁.name = m₂.name) (hv : m₁.version = m₂.version)
    (hs : m₁.snapshot none = m₂.snapshot none) (args : List String) :
    (perform m₁ args).1 = (perform m₂ args).1 ∧ R (perform m₁ args).2 (perform m₂ args).2 := by
  simp only [perform]
  split
  · exact ⟨rfl, he⟩
  · split
    · exact ⟨rfl, he⟩
    · split
      · exact ⟨rfl, he⟩
      · split
        · exact ⟨rfl, he⟩
        · split
          · exact performCommand_alike hR he hn hv hs _ _
          · exact ⟨rfl, he⟩

end

end PanelConfig.CommandLine
