import PanelConfig.Text.CaseTable

/-! The full lower case of text. Most characters have a lower case of their own; the capital I with
a dot above becomes two characters, and the capital sigma becomes the final or the inner small
sigma, depending on the characters around it. -/

namespace PanelConfig.Text

def lowerChar (c : Char) : List Char :=
  if c = '\u0130' then ['i', '\u0307'] else
  match caseRuns.find? (·.holds c.toNat) with
  | some r => [Char.ofNat (r.image + (c.toNat - r.first))]
  | none => [c]

/-- The character is passed over where the final form of sigma is chosen. -/
def isCaseIgnorable (c : Char) : Bool := covers caseIgnorableRanges c.toNat

/-- The first character that is not passed over is one with case. -/
def meetsCased (cs : List Char) : Bool :=
  match cs.dropWhile isCaseIgnorable with
  | c :: _ => covers casedRanges c.toNat
  | [] => false

/-- A sigma between `before`, read backwards, and `after` ends a word: a character with case comes
before it and none after it. -/
def endsWord (before after : List Char) : Bool := meetsCased before && !meetsCased after

/-- The lower case of `c` between `before`, read backwards, and `after`. -/
def lowerBetween (before : List Char) (c : Char) (after : List Char) : List Char :=
  if c = '\u03A3' then (if endsWord before after then ['\u03C2'] else ['\u03C3']) else lowerChar c

/-- The lower case of `cs`, which follows `before`, read backwards. -/
def lowerAfter (before : List Char) : List Char → List Char
  | [] => []
  | c :: cs => lowerBetween before c cs ++ lowerAfter (c :: before) cs

def lower (s : String) : String := String.ofList (lowerAfter [] s.toList)

end PanelConfig.Text
