import PanelConfig.Text.Quoted

/-! Values of reports and their texts. The literal text of a value is its text inside lists and
mappings, where texts are quoted; at the outside a text stands as it is. -/

namespace PanelConfig

/-- A value of a report. A mapping keeps its entries in order. -/
inductive Value where
  | absent
  | flag (b : Bool)
  | number (i : Int)
  | text (s : String)
  | list (items : List Value)
  | mapping (entries : List (String × Value))

namespace Value

/-- The entries with `v` at `key`: in the place of the entry that has the key, or else at the
end. -/
def putEntry (key : String) (v : Value) : List (String × Value) → List (String × Value)
  | [] => [(key, v)]
  | e :: es => if e.1 = key then (key, v) :: es else e :: putEntry key v es

/-- The entries of the mapping to which pairs of a key and a value are put one after another. -/
def entriesOfPairs (pairs : List (String × Value)) : List (String × Value) :=
  pairs.foldl (fun es p => putEntry p.1 p.2 es) []

mutual

def literal : Value → String
  | .absent => "None"
  | .flag true => "True"
  | .flag false => "False"
  | .number i => toString i
  | .text s => Text.quoted s
  | .list items => "[" ++ literalItems items ++ "]"
  | .mapping entries => "\x7b" ++ literalEntries entries ++ "\x7d"

/-- The literal texts of the items of a list, with a comma and a space between each two. -/
def literalItems : List Value → String
  | [] => ""
  | [v] => literal v
  | v :: vs => literal v ++ ", " ++ literalItems vs

/-- The literal texts of the entries of a mapping, with a comma and a space between each two. -/
def literalEntries : List (String × Value) → String
  | [] => ""
  | [(k, v)] => Text.quoted k ++ ": " ++ literal v
  | (k, v) :: es => Text.quoted k ++ ": " ++ literal v ++ ", " ++ literalEntries es

end

/-- The text of a value on a line of its own. -/
def display : Value → String
  | .text s => s
  | v => v.literal

def line (key : String) (v : Value) : String := key ++ ": " ++ v.display

/-- The lines of an entry. A mapping has a line for each of its own entries, and the outer key
stands before the inner one. -/
def entryLines (key : String) : Value → List String
  | .mapping entries => entries.map fun e => line (key ++ "." ++ e.1) e.2
  | v => [line key v]

def lines (entries : List (String × Value)) : List String :=
  entries.flatMap fun e => entryLines e.1 e.2

end Value

end PanelConfig
