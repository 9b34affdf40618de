/-! Punycode: text of any script in ASCII. The ASCII characters come first, as they stand. The
others follow in ascending order, each as the number of places that are passed over before it is
inserted, written in digits to the base 36 of which the least comes first. How many values a digit
has is adapted to the numbers written so far. -/

namespace PanelConfig.Text.Punycode

/-- The letter or decimal digit for a number below 36. -/
def digit (n : Nat) : Char := Char.ofNat (if n < 26 then 0x61 + n else 0x30 + (n - 26))

/-- The least value of a digit after which more digits follow, at the place `k` from the left. -/
def threshold (bias k : Nat) : Nat := max 1 (min 26 (36 * k - bias))

theorem one_le_threshold (bias k : Nat) : 1 ≤ threshold bias k := Nat.le_max_left 1 _

/-- The digits of a number from the place `k` on. -/
def digits (bias k n : Nat) : List Char :=
  if n < threshold bias k then [digit n]
  else
    let rest := n - threshold bias k
    let values := 36 - threshold bias k
    digit (threshold bias k + rest % values) :: digits bias (k + 1) (rest / values)
termination_by n
decreasing_by
  have ht := one_le_threshold bias k
  have hd := Nat.div_le_self (n - threshold bias k) (36 - threshold bias k)
  show (n - threshold bias k) / (36 - threshold bias k) < n
  omega

/-- Divides `n` by 35 until it is 455 at most: 36 for every division, those before included, and
what is left of `n`. -/
def shrink (steps n : Nat) : Nat × Nat :=
  if n ≤ 455 then (36 * steps, n) else shrink (steps + 1) (n / 35)
termination_by n
decreasing_by omega

/-- The bias after the number `n` is written, where `size` characters are in place and `first` tells
whether it is the first number. -/
def nextBias (first : Bool) (n size : Nat) : Nat :=
  let halved := if first then n / 700 else n / 2
  let (steps, rest) := shrink 0 (halved + halved / size)
  steps + 36 * rest / (rest + 38)

structure State where
  /-- The number of places passed over since the last character. -/
  passed : Nat
  bias : Nat
  /-- The number of characters that are in place. -/
  size : Nat
  /-- No number is written yet. -/
  first : Bool
  written : List Char

/-- Goes over a character of the text while the characters with the code point `n` are inserted. -/
def State.visit (n : Nat) (s : State) (c : Char) : State :=
  if c.toNat < n then { s with passed := s.passed + 1 }
  else if c.toNat = n then
    { passed := 0
      bias := nextBias s.first s.passed (s.size + 1)
      size := s.size + 1
      first := false
      written := s.written ++ digits s.bias 1 s.passed }
  else s

/-- Inserts the characters with the code points given, which ascend from `n` on. -/
def State.insertAll (cs : List Char) : (n : Nat) → List Nat → State → State
  | _, [], s => s
  | n, m :: ms, s =>
    let s := cs.foldl (visit m) { s with passed := s.passed + (m - n) * (s.size + 1) }
    insertAll cs (m + 1) ms { s with passed := s.passed + 1 }

def isAscii (c : Char) : Bool := decide (c.toNat < 0x80)

def encode (cs : List Char) : List Char :=
  let basic := cs.filter isAscii
  let others := (((cs.filter fun c => !isAscii c).map Char.toNat).mergeSort).eraseDups
  let start : State := ⟨0, 72, basic.length, true, []⟩
  basic ++ (if basic = [] then [] else ['-']) ++ (start.insertAll cs 0x80 others).written

end PanelConfig.Text.Punycode
