/-! Percent coding: a character that may not stand in a text is given by the hexadecimal digits of
its bytes, each pair of digits after a percent sign. -/

namespace PanelConfig.Text

/-- An upper-case hexadecimal digit. -/
def upperHexDigit (n : Nat) : Char := Char.ofNat (if n < 10 then 0x30 + n else 0x37 + n)

/-- A character by the hexadecimal digits of its bytes. -/
def percentForm (c : Char) : List Char :=
  (String.singleton c).toUTF8.toList.flatMap fun b =>
    ['%', upperHexDigit (b.toNat / 16), upperHexDigit (b.toNat % 16)]

/-- The characters with those that `safe` refuses given by their bytes. -/
def percentEncode (safe : Char → Bool) (cs : List Char) : List Char :=
  cs.flatMap fun c => if safe c then [c] else percentForm c

/-- The printable ASCII characters but those listed. -/
def printableBut (refused : List Char) (c : Char) : Bool :=
  decide (0x20 ≤ c.toNat) && decide (c.toNat < 0x7F) && !refused.contains c

/-- The value of a hexadecimal digit in either letter case. -/
def digitOf? (c : Char) : Option Nat :=
  if '0' ≤ c ∧ c ≤ '9' then some (c.toNat - 0x30)
  else if 'a' ≤ c ∧ c ≤ 'f' then some (c.toNat - 0x57)
  else if 'A' ≤ c ∧ c ≤ 'F' then some (c.toNat - 0x37)
  else none

/-- The characters with every byte that is given by its digits in place of them. Bytes beyond ASCII
become characters beyond ASCII. -/
def percentDecode : List Char → List Char
  | '%' :: a :: b :: cs =>
    match digitOf? a, digitOf? b with
    | some x, some y => Char.ofNat (x * 16 + y) :: percentDecode cs
    | _, _ => '%' :: percentDecode (a :: b :: cs)
  | c :: cs => c :: percentDecode cs
  | [] => []

end PanelConfig.Text
