import PanelConfig.Text.Blank
import PanelConfig.Text.DigitTable

/-! Decimal integers as people write them: digits of any script, single underscores between digits,
a sign, and blanks around the whole. -/

namespace PanelConfig.Text

/-- The value of a decimal digit of any script. -/
def digitValue? (c : Char) : Option Nat :=
  (decimalZeros.find? fun z => decide (z ≤ c.toNat) && decide (c.toNat < z + 10)).map (c.toNat - ·)

/-- The blanks that may surround a number: all but the four ASCII separators. -/
def isNumberBlank (c : Char) : Bool := isBlank c && !covers [(0x1C, 0x1F)] c.toNat

/-- The digits of a number, single underscores between them left out. At the start and after an
underscore, which `gap` tells, there has to be a digit. -/
def readDigits : (gap : Bool) → List Char → Option (List Nat)
  | true, [] => none
  | false, [] => some []
  | gap, c :: cs =>
    if c = '_' then (if gap then none else readDigits true cs)
    else (digitValue? c).bind fun d => (readDigits false cs).map (d :: ·)

def maxDigits : Nat := 4300

/-- The number written by the digits, unless they are too many. -/
def readNatural (cs : List Char) : Option Nat :=
  (readDigits true cs).bind fun ds =>
    if ds.length ≤ maxDigits then some (ds.foldl (fun n d => n * 10 + d) 0) else none

/-- The integer that a text writes in decimal. -/
def readInteger (s : String) : Option Int :=
  match trimWhere isNumberBlank s.toList with
  | '-' :: cs => (readNatural cs).map fun n => -(n : Int)
  | '+' :: cs => (readNatural cs).map fun n => (n : Int)
  | cs => (readNatural cs).map fun n => (n : Int)

end PanelConfig.Text
