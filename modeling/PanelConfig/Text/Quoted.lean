import PanelConfig.Text.Printable

/-! Quoted text, as messages show it: on one line, with nothing but printable characters, and such
that the text can be read back. The quotes are single unless the text holds a single quote and no
double one. -/

namespace PanelConfig.Text.Quoted

/-- The lower-case hexadecimal digit of a number below sixteen. -/
def hexDigit (n : Nat) : Char := Char.ofNat (if n < 10 then 0x30 + n else 0x57 + n)

/-- The last `width` hexadecimal digits of `n`. -/
def hex : (width : Nat) → (n : Nat) → List Char
  | 0, _ => []
  | width + 1, n => hex width (n / 16) ++ [hexDigit (n % 16)]

/-- The mark around the quoted form of `cs`. -/
def mark (cs : List Char) : Char := if '\'' ∈ cs ∧ '"' ∉ cs then '"' else '\''

/-- A character inside quotes: the mark and the backslash follow a backslash, three controls have
letters, and other characters that are not printable are given by two, four or eight digits. -/
def escape (quote : Char) (c : Char) : List Char :=
  if c = quote ∨ c = '\\' then ['\\', c]
  else if c = '\n' then ['\\', 'n']
  else if c = '\r' then ['\\', 'r']
  else if c = '\t' then ['\\', 't']
  else if isPrintable c then [c]
  else if c.toNat < 0x100 then '\\' :: 'x' :: hex 2 c.toNat
  else if c.toNat < 0x10000 then '\\' :: 'u' :: hex 4 c.toNat
  else '\\' :: 'U' :: hex 8 c.toNat

def encode (cs : List Char) : List Char := mark cs :: cs.flatMap (escape (mark cs)) ++ [mark cs]

def hexValue? (c : Char) : Option Nat :=
  if '0' ≤ c ∧ c ≤ '9' then some (c.toNat - 0x30)
  else if 'a' ≤ c ∧ c ≤ 'f' then some (c.toNat - 0x57)
  else none

/-- Reads `width` hexadecimal digits onto `n` and gives the number with the characters after it. -/
def readHex : (width : Nat) → (n : Nat) → List Char → Option (Nat × List Char)
  | 0, n, cs => some (n, cs)
  | _ + 1, _, [] => none
  | width + 1, n, c :: cs => (hexValue? c).bind fun d => readHex width (n * 16 + d) cs

/-- Reads one character of a quoted text and gives the characters after it. -/
def readChar : List Char → Option (Char × List Char)
  | [] => none
  | '\\' :: 'n' :: cs => some ('\n', cs)
  | '\\' :: 'r' :: cs => some ('\r', cs)
  | '\\' :: 't' :: cs => some ('\t', cs)
  | '\\' :: 'x' :: cs => (readHex 2 0 cs).map fun r => (Char.ofNat r.1, r.2)
  | '\\' :: 'u' :: cs => (readHex 4 0 cs).map fun r => (Char.ofNat r.1, r.2)
  | '\\' :: 'U' :: cs => (readHex 8 0 cs).map fun r => (Char.ofNat r.1, r.2)
  | '\\' :: c :: cs => some (c, cs)
  | c :: cs => some (c, cs)

/-- Reads characters up to the closing mark, which has to end the text. Every character takes at
least one step of `fuel`. -/
def readBody (quote : Char) : (fuel : Nat) → List Char → Option (List Char)
  | 0, _ => none
  | fuel + 1, cs =>
    if cs = [quote] then some []
    else (readChar cs).bind fun r => (readBody quote fuel r.2).map (r.1 :: ·)

/-- The text whose quoted form is `cs`. -/
def decode : List Char → Option (List Char)
  | [] => none
  | quote :: cs => readBody quote cs.length cs

end PanelConfig.Text.Quoted

namespace PanelConfig.Text

def quoted (s : String) : String := String.ofList (Quoted.encode s.toList)

end PanelConfig.Text
