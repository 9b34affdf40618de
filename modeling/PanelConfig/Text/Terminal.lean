/-! Text as it leaves through a stream that is not a terminal: the sequences that control a terminal
are dropped. Such a sequence is an escape, an opening bracket, any parameters, any intermediate
characters and a final character. -/

namespace PanelConfig.Text

/-- A parameter in a control sequence: a digit or one of six signs. -/
def isParameter (c : Char) : Bool := decide ('0' ≤ c) && decide (c ≤ '?')

/-- An intermediate character in a control sequence: a space or one of fifteen signs. -/
def isIntermediate (c : Char) : Bool := decide (' ' ≤ c) && decide (c ≤ '/')

/-- A character that ends a control sequence: a letter or one of eleven signs. -/
def isFinal (c : Char) : Bool := decide ('@' ≤ c) && decide (c ≤ '~')

/-- The number of characters of a control sequence after its opening bracket. -/
def controlLength? (cs : List Char) : Option Nat :=
  let afterParameters := cs.dropWhile isParameter
  let atFinal := afterParameters.dropWhile isIntermediate
  match atFinal with
  | [] => none
  | c :: rest => if isFinal c then some (cs.length - rest.length) else none

/-- The length of the control sequence at the front, without its first character. -/
def sequenceLength? : List Char → Option Nat
  | '\x1b' :: '[' :: cs => (controlLength? cs).map (· + 1)
  | _ => none

/-- The characters, of which the first `skip` are dropped, without the control sequences among
them. -/
def dropSequences : (skip : Nat) → List Char → List Char
  | _, [] => []
  | skip + 1, _ :: cs => dropSequences skip cs
  | 0, c :: cs =>
    match sequenceLength? (c :: cs) with
    | some n => dropSequences n cs
    | none => c :: dropSequences 0 cs

/-- A text as it is seen at the far end of a stream. -/
def streamed (s : String) : String := String.ofList (dropSequences 0 s.toList)

theorem sequenceLength?_cons {c : Char} (h : c ≠ '\x1b') (cs : List Char) :
    sequenceLength? (c :: cs) = none := by
  unfold sequenceLength?
  split
  · next heq => exact absurd (List.cons.inj heq).1 h
  · rfl

/-- Nothing is dropped from a front part without an escape, whatever follows it. -/
theorem dropSequences_append {cs : List Char} (h : '\x1b' ∉ cs) (rest : List Char) :
    dropSequences 0 (cs ++ rest) = cs ++ dropSequences 0 rest := by
  induction cs with
  | nil => rfl
  | cons c cs ih =>
    rw [List.mem_cons, not_or] at h
    rw [List.cons_append, dropSequences, sequenceLength?_cons (Ne.symm h.1), ih h.2,
      List.cons_append]

theorem dropSequences_of_notMem {cs : List Char} (h : '\x1b' ∉ cs) : dropSequences 0 cs = cs := by
  have hfront := dropSequences_append h []
  rwa [dropSequences, List.append_nil] at hfront

theorem streamed_of_notMem {s : String} (h : '\x1b' ∉ s.toList) : streamed s = s := by
  rw [streamed, dropSequences_of_notMem h, String.ofList_toList]

theorem streamed_append {s : String} (h : '\x1b' ∉ s.toList) (rest : String) :
    streamed (s ++ rest) = s ++ streamed rest := by
  rw [streamed, streamed, String.toList_append, dropSequences_append h, String.ofList_append,
    String.ofList_toList]

end PanelConfig.Text
