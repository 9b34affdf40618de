/-! How alike two words are, and the words that a misspelt one was probably meant to be. Two words
share their longest common block, then the longest common blocks to its left and to its right, and
so on; the likeness is twice the number of shared characters over the number of all. -/

namespace PanelConfig.Text.Likeness

/-- The number of characters at the front on which the two lists agree. -/
def common : List Char → List Char → Nat
  | a :: as, b :: bs => if a = b then common as bs + 1 else 0
  | _, _ => 0

structure Block where
  left : Nat
  right : Nat
  size : Nat

/-- The longer block, and of two equally long ones the first. -/
def Block.better (x y : Block) : Block := if x.size < y.size then y else x

/-- The longest block that starts at the front of `as`, the first of them in `bs`. -/
def blockAt (left : Nat) (as : List Char) : (right : Nat) → List Char → Block
  | right, [] => ⟨left, right, 0⟩
  | right, b :: bs =>
    Block.better ⟨left, right, common as (b :: bs)⟩ (blockAt left as (right + 1) bs)

/-- The longest block of `as`, which starts at `left`, and `bs`: the first in `as`, then in `bs`. -/
def longest : (left : Nat) → List Char → List Char → Block
  | left, [], _ => ⟨left, 0, 0⟩
  | left, a :: as, bs => Block.better (blockAt left (a :: as) 0 bs) (longest (left + 1) as bs)

/-- The number of characters that two words share. Each round takes a block off, so that as many
rounds as `as` has characters are enough. -/
def sharedIn : (rounds : Nat) → List Char → List Char → Nat
  | 0, _, _ => 0
  | rounds + 1, as, bs =>
    let b := longest 0 as bs
    if b.size = 0 then 0
    else sharedIn rounds (as.take b.left) (bs.take b.right) + b.size
      + sharedIn rounds (as.drop (b.left + b.size)) (bs.drop (b.right + b.size))

/-- The number of characters that two words share. -/
def shared (as bs : List Char) : Nat := sharedIn as.length as bs

/-- A word that may have been meant, with the characters it shares and the characters of both. -/
structure Guess where
  word : String
  shared : Nat
  total : Nat

/-- The guess that `candidate` was meant by `word`. -/
def Guess.of (word candidate : String) : Guess :=
  ⟨candidate, Likeness.shared candidate.toList word.toList, candidate.length + word.length⟩

/-- A likeness of three fifths or more is near. -/
def Guess.isNear (g : Guess) : Bool := decide (3 * g.total ≤ 10 * g.shared)

/-- The nearer guess comes first, and of two equally near ones the later word. -/
def Guess.before (x y : Guess) : Bool :=
  if x.shared * y.total = y.shared * x.total then decide (y.word ≤ x.word)
  else decide (y.shared * x.total < x.shared * y.total)

def maxGuesses : Nat := 3

/-- The candidates nearest to a word, in alphabetical order. -/
def nearest (word : String) (candidates : List String) : List String :=
  let near := (candidates.map (Guess.of word)).filter Guess.isNear
  let best := (near.mergeSort Guess.before).take maxGuesses
  (best.map Guess.word).mergeSort (fun x y => decide (x ≤ y))

end PanelConfig.Text.Likeness
