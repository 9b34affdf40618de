import PanelConfig.Text.Cut
import PanelConfig.Value

/-! The leaves of a report, and reading its lines back into them. A leaf is an entry that is not a
mapping, or an entry of one. -/

namespace PanelConfig

structure Leaf where
  /-- The key of the mapping that holds the leaf, if it is held by one. -/
  holder? : Option String
  key : String
  text : String
  deriving DecidableEq, Repr

namespace Leaf

/-- The leaves of an entry, in order. -/
def ofEntry (key : String) : Value → List Leaf
  | .mapping entries => entries.map fun e => ⟨some key, e.1, e.2.display⟩
  | v => [⟨none, key, v.display⟩]

def ofEntries (entries : List (String × Value)) : List Leaf :=
  entries.flatMap fun e => ofEntry e.1 e.2

open Text in
/-- The leaf that a line gives. The line is cut at its first colon with a space after it, and what
comes before at its first dot, if it has one. -/
def ofLine? (line : String) : Option Leaf :=
  (cutAt? ": ".toList line.toList).map fun r =>
    match cutAt? ['.'] r.1 with
    | some (holder, key) => ⟨some (String.ofList holder), String.ofList key, String.ofList r.2⟩
    | none => ⟨none, String.ofList r.1, String.ofList r.2⟩

end Leaf

end PanelConfig
