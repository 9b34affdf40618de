import PanelConfig.Value

/-! Values as JSON text, in one of two layouts: compact, with all characters but the controls as
they are, or indented and in printable ASCII. -/

namespace PanelConfig.Json

open Text

/-- The escape of a code unit: four hexadecimal digits. -/
def unitEscape (n : Nat) : List Char := '\\' :: 'u' :: Quoted.hex 4 n

/-- A character inside a text: quotes, backslashes and controls are escaped. -/
def escape (c : Char) : List Char :=
  if c = '"' then ['\\', '"']
  else if c = '\\' then ['\\', '\\']
  else if c = '\n' then ['\\', 'n']
  else if c = '\r' then ['\\', 'r']
  else if c = '\t' then ['\\', 't']
  else if c = '\x08' then ['\\', 'b']
  else if c = '\x0c' then ['\\', 'f']
  else if c.toNat < 0x20 then unitEscape c.toNat
  else [c]

/-- A character inside a text in printable ASCII: any other is given by its code unit, or by the two
code units of its surrogate pair. -/
def escapeAscii (c : Char) : List Char :=
  if c.toNat < 0x7F then escape c
  else if c.toNat < 0x10000 then unitEscape c.toNat
  else unitEscape (0xD800 + (c.toNat - 0x10000) / 0x400)
    ++ unitEscape (0xDC00 + (c.toNat - 0x10000) % 0x400)

/-- How JSON text is laid out. -/
structure Layout where
  escape : Char → List Char
  /-- What stands between a key and its value. -/
  colon : List Char
  /-- The spaces of one level of indentation; without them all stands on one line. -/
  indent : Option Nat

def compact : Layout := ⟨escape, [':'], none⟩

/-- Lines with two spaces a level, in printable ASCII. -/
def indented : Layout := ⟨escapeAscii, [':', ' '], some 2⟩

/-- What stands before an item or a closing bracket at a depth. -/
def Layout.gap (l : Layout) (depth : Nat) : List Char :=
  match l.indent with
  | none => []
  | some n => '\n' :: List.replicate (n * depth) ' '

def writeText (l : Layout) (s : String) : List Char := '"' :: s.toList.flatMap l.escape ++ ['"']

mutual

/-- The JSON text of a value at a depth. -/
def write (l : Layout) (depth : Nat) : Value → List Char
  | .absent => ['n', 'u', 'l', 'l']
  | .flag true => ['t', 'r', 'u', 'e']
  | .flag false => ['f', 'a', 'l', 's', 'e']
  | .number i => (toString i).toList
  | .text s => writeText l s
  | .list [] => ['[', ']']
  | .list (v :: vs) =>
    '[' :: l.gap (depth + 1) ++ writeItems l (depth + 1) (v :: vs) ++ l.gap depth ++ [']']
  | .mapping [] => ['\x7b', '\x7d']
  | .mapping (e :: es) =>
    '\x7b' :: l.gap (depth + 1) ++ writeEntries l (depth + 1) (e :: es) ++ l.gap depth ++ ['\x7d']

/-- The JSON texts of items at a depth, with a comma between each two. -/
def writeItems (l : Layout) (depth : Nat) : List Value → List Char
  | [] => []
  | [v] => write l depth v
  | v :: vs => write l depth v ++ ',' :: l.gap depth ++ writeItems l depth vs

/-- The JSON texts of entries at a depth, with a comma between each two. -/
def writeEntries (l : Layout) (depth : Nat) : List (String × Value) → List Char
  | [] => []
  | [(k, v)] => writeText l k ++ l.colon ++ write l depth v
  | (k, v) :: es =>
    writeText l k ++ l.colon ++ write l depth v ++ ',' :: l.gap depth ++ writeEntries l depth es

end

def text (l : Layout) (v : Value) : String := String.ofList (write l 0 v)

end PanelConfig.Json
