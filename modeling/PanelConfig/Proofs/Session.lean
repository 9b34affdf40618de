import PanelConfig.Session

/-! The machine between the operations of a session. The report of each operation is that of the
operation on the machine that the ones before it leave. -/

namespace PanelConfig

/-! The answer of an operation is that of its part, as an answer. -/

variable {α : Type} {x : Except Failure α} {f : α → Answer}

theorem map_eq_ok_iff (hf : ∀ a b, f a = f b → a = b) {a : α} :
    x.map f = .ok (f a) ↔ x = .ok a := by
  cases x with
  | error e => simp [Except.map]
  | ok b => simpa [Except.map] using ⟨hf b a, congrArg f⟩

theorem map_eq_error_iff {e : Failure} : x.map f = .error e ↔ x = .error e := by
  cases x with
  | error e' => simp [Except.map]
  | ok a => simp [Except.map]

end PanelConfig

namespace PanelConfig.Machine

/-- The machine that operations leave. -/
def after (m : Machine) (ops : List Operation) : Machine :=
  ops.foldl (fun m op => (op.perform m).machine) m

@[simp] theorem after_nil (m : Machine) : m.after [] = m := rfl

@[simp] theorem after_cons (m : Machine) (op : Operation) (ops : List Operation) :
    m.after (op :: ops) = (op.perform m).machine.after ops := rfl

theorem after_append (m : Machine) (xs ys : List Operation) :
    m.after (xs ++ ys) = (m.after xs).after ys := List.foldl_append

theorem session_getElem? (m : Machine) (ops : List Operation) (i : Nat) :
    (m.session ops)[i]? = ops[i]?.map fun op => op.perform (m.after (ops.take i)) := by
  induction ops generalizing m i with
  | nil => simp [session]
  | cons op ops ih =>
    cases i with
    | zero => simp [session]
    | succ i => simp [session, ih]

end PanelConfig.Machine
