import PanelConfig.Json

/-! Reading JSON text. Blanks between tokens are skipped, surrogate pairs are joined to the
character they stand for, and entries are kept in order. Numbers are integers; a fraction or an
exponent is refused. -/

namespace PanelConfig.Json

open Text

def isSpace (c : Char) : Bool := c = ' ' || c = '\n' || c = '\r' || c = '\t'

def skipSpace (cs : List Char) : List Char := cs.dropWhile isSpace

/-- The value of a hexadecimal digit in either letter case. -/
def hexValue? (c : Char) : Option Nat :=
  if 'A' ≤ c ∧ c ≤ 'F' then some (c.toNat - 0x37) else Quoted.hexValue? c

/-- Reads the four digits of a code unit. -/
def readUnit : List Char → Option (Nat × List Char)
  | a :: b :: c :: d :: cs => do
    let a ← hexValue? a
    let b ← hexValue? b
    let c ← hexValue? c
    let d ← hexValue? d
    some (((a * 16 + b) * 16 + c) * 16 + d, cs)
  | _ => none

/-- Reads what follows a code unit `u` that was escaped: after a high surrogate there has to be the
escape of a low one, and a low one cannot stand alone. -/
def readPair (u : Nat) (cs : List Char) : Option (Char × List Char) :=
  if 0xD800 ≤ u ∧ u < 0xDC00 then
    match cs with
    | '\\' :: 'u' :: cs => (readUnit cs).bind fun r =>
      if 0xDC00 ≤ r.1 ∧ r.1 < 0xE000 then
        some (Char.ofNat (0x10000 + (u - 0xD800) * 0x400 + (r.1 - 0xDC00)), r.2)
      else none
    | _ => none
  else if 0xDC00 ≤ u ∧ u < 0xE000 then none
  else some (Char.ofNat u, cs)

def shortEscape? (c : Char) : Option Char :=
  if c = '"' ∨ c = '\\' ∨ c = '/' then some c
  else if c = 'n' then some '\n'
  else if c = 'r' then some '\r'
  else if c = 't' then some '\t'
  else if c = 'b' then some '\x08'
  else if c = 'f' then some '\x0c'
  else none

def readChar : List Char → Option (Char × List Char)
  | [] => none
  | ['\\'] => none
  | '\\' :: c :: cs =>
    if c = 'u' then (readUnit cs).bind fun r => readPair r.1 r.2
    else (shortEscape? c).map fun x => (x, cs)
  | c :: cs => if c = '"' ∨ c.toNat < 0x20 then none else some (c, cs)

/-- Reads the characters of a text up to its closing quote. Every character takes a step of
`fuel`. -/
def readText : (fuel : Nat) → List Char → Option (List Char × List Char)
  | 0, _ => none
  | _ + 1, '"' :: cs => some ([], cs)
  | fuel + 1, cs => (readChar cs).bind fun r =>
    (readText fuel r.2).map fun t => (r.1 :: t.1, t.2)

/-- Reads the digits at the front onto `n`. -/
def readNumber (n : Nat) : List Char → Nat × List Char
  | [] => (n, [])
  | c :: cs => if c.isDigit then readNumber (n * 10 + (c.toNat - 0x30)) cs else (n, c :: cs)

/-- Reads an integer without leading zeros; no fraction or exponent may follow. -/
def readInteger : List Char → Option (Nat × List Char)
  | [] => none
  | c :: cs =>
    let r := if c = '0' then (0, cs) else readNumber 0 (c :: cs)
    if !c.isDigit then none
    else match r.2 with
      | [] => some r
      | d :: _ => if d.isDigit || d = '.' || d = 'e' || d = 'E' then none else some r

mutual

/-- Reads a value. Every value, item and entry takes a step of `fuel`. -/
def readValue : (fuel : Nat) → List Char → Option (Value × List Char)
  | 0, _ => none
  | fuel + 1, cs =>
    match skipSpace cs with
    | 'n' :: 'u' :: 'l' :: 'l' :: cs => some (.absent, cs)
    | 't' :: 'r' :: 'u' :: 'e' :: cs => some (.flag true, cs)
    | 'f' :: 'a' :: 'l' :: 's' :: 'e' :: cs => some (.flag false, cs)
    | '"' :: cs => (readText cs.length cs).map fun t => (.text (String.ofList t.1), t.2)
    | '[' :: cs =>
      match skipSpace cs with
      | ']' :: cs => some (.list [], cs)
      | cs => (readItems fuel cs).map fun r => (.list r.1, r.2)
    | '\x7b' :: cs =>
      match skipSpace cs with
      | '\x7d' :: cs => some (.mapping [], cs)
      | cs => (readEntries fuel cs).map fun r => (.mapping r.1, r.2)
    | '-' :: cs => (readInteger cs).map fun r => (.number (-(r.1 : Int)), r.2)
    | cs => (readInteger cs).map fun r => (.number (r.1 : Int), r.2)

/-- Reads the items of a list up to its closing bracket. -/
def readItems : (fuel : Nat) → List Char → Option (List Value × List Char)
  | 0, _ => none
  | fuel + 1, cs => (readValue fuel cs).bind fun v =>
    match skipSpace v.2 with
    | ',' :: cs => (readItems fuel cs).map fun r => (v.1 :: r.1, r.2)
    | ']' :: cs => some ([v.1], cs)
    | _ => none

/-- Reads the entries of a mapping up to its closing brace. -/
def readEntries : (fuel : Nat) → List Char → Option (List (String × Value) × List Char)
  | 0, _ => none
  | fuel + 1, cs =>
    match skipSpace cs with
    | '"' :: cs => (readText cs.length cs).bind fun k =>
      match skipSpace k.2 with
      | ':' :: cs => (readValue fuel cs).bind fun v =>
        match skipSpace v.2 with
        | ',' :: cs =>
          (readEntries fuel cs).map fun r => ((String.ofList k.1, v.1) :: r.1, r.2)
        | '\x7d' :: cs => some ([(String.ofList k.1, v.1)], cs)
        | _ => none
      | _ => none
    | _ => none

end

def read (s : String) : Option Value :=
  (readValue (s.toList.length + 1) s.toList).bind fun r =>
    if skipSpace r.2 = [] then some r.1 else none

end PanelConfig.Json
