import PanelConfig.Text.Cut
import PanelConfig.Text.Likeness
import PanelConfig.Text.Quoted

/-! The arguments of a command: options, some of which take a value, and words that are left over.
An option is given by its full name; its value follows as the next argument, whatever that is, or
after an equals sign. Two dashes alone end the options. -/

namespace PanelConfig.CommandLine

structure OptionSpec where
  name : String
  /-- What the help calls the value, if the option takes one. -/
  value? : Option String
  help : String

inductive UsageFault where
  | noSuchOption (name : String) (near : List String)
  | noSuchCommand (name : String) (near : List String)
  | missingCommand
  | missingValue (option : String)
  | needlessValue (option : String)
  | notAnInteger (option : String) (value : String)
  | extraArguments (args : List String)
  deriving DecidableEq, Repr

namespace UsageFault

/-- The offer of words that may have been meant. -/
def offer : List String → String
  | [] => ""
  | [word] => s!" Did you mean {Text.quoted word}?"
  | words => " (Did you mean one of: " ++ String.intercalate ", " (words.map Text.quoted) ++ "?)"

def message : UsageFault → String
  | .noSuchOption name near => s!"No such option {Text.quoted name}.{offer near}"
  | .noSuchCommand name near => s!"No such command {Text.quoted name}.{offer near}"
  | .missingCommand => "Missing command."
  | .missingValue option => s!"Option {Text.quoted option} requires an argument."
  | .needlessValue option => s!"Option {Text.quoted option} does not take a value."
  | .notAnInteger option value =>
    s!"Invalid value for {Text.quoted option}: {Text.quoted value} is not a valid integer."
  | .extraArguments args =>
    "Got unexpected extra argument" ++ (if args.length = 1 then "" else "s") ++ " ("
      ++ String.intercalate " " args ++ ")"

/-- The fault is shown with the usage of the command. A value that is missing or needless is not. -/
def showsUsage : UsageFault → Bool
  | .missingValue _ | .needlessValue _ => false
  | _ => true

end UsageFault

/-- The arguments of a command, sorted. -/
structure Arguments where
  /-- The options in the order in which they are given, with their values. -/
  given : List (String × String)
  rest : List String
  deriving Repr

namespace Arguments

def withOption (name value : String) (a : Arguments) : Arguments :=
  { a with given := (name, value) :: a.given }

def withWord (word : String) (a : Arguments) : Arguments := { a with rest := word :: a.rest }

def has (a : Arguments) (name : String) : Bool := a.given.any fun o => o.1 = name

/-- The value that is given last to an option. -/
def last? (a : Arguments) (name : String) : Option String := a.given.reverse.lookup name

end Arguments

/-- The argument is an option: a dash and something after it. -/
def isOption (arg : String) : Bool :=
  match arg.toList with
  | '-' :: _ :: _ => true
  | _ => false

/-- The name of an option and the value after the first equals sign, if there is one. -/
def splitOption (arg : String) : String × Option String :=
  match Text.cutAt? ['='] arg.toList with
  | some (name, value) => (String.ofList name, some (String.ofList value))
  | none => (arg, none)

/-- The fault that an option is not known. One with a single dash is taken by its first letter. -/
def unknownOption (specs : List OptionSpec) (arg : String) : UsageFault :=
  match arg.toList with
  | '-' :: '-' :: _ =>
    let name := (splitOption arg).1
    .noSuchOption name (Text.Likeness.nearest name (specs.map OptionSpec.name))
  | dash :: letter :: _ => .noSuchOption (String.ofList [dash, letter]) []
  | _ => .noSuchOption arg []

/-- Sorts arguments. If words may not stand before options, the first word ends the options. -/
def sortArguments (specs : List OptionSpec) (mixed : Bool) :
    List String → Except UsageFault Arguments
  | [] => .ok ⟨[], []⟩
  | arg :: args =>
    if arg = "--" then .ok ⟨[], args⟩
    else if isOption arg then
      match specs.find? (fun s => s.name = (splitOption arg).1) with
      | none => .error (unknownOption specs arg)
      | some spec =>
        match spec.value?, (splitOption arg).2, args with
        | some _, some value, args =>
          (sortArguments specs mixed args).map (·.withOption spec.name value)
        | some _, none, [] => .error (.missingValue spec.name)
        | some _, none, value :: args =>
          (sortArguments specs mixed args).map (·.withOption spec.name value)
        | none, some _, _ => .error (.needlessValue spec.name)
        | none, none, args => (sortArguments specs mixed args).map (·.withOption spec.name "")
    else if mixed then (sortArguments specs mixed args).map (·.withWord arg)
    else .ok ⟨[], arg :: args⟩

end PanelConfig.CommandLine
