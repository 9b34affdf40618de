import PanelConfig.Proofs.Disk.Copying

/-! Copies on a device that may fail at any of its calls. Whatever the call, what the copy has
written by then is a front part of the source, and that part stays behind at the target. -/

namespace PanelConfig.Disk

variable {d : Disk} {plan : FaultPlan} {source target : String} {s t : Location}

/-- A transfer writes a front part of the bytes that are left, and all of them unless a call of the
device fails. -/
theorem written_transfer (plan : FaultPlan) (call : Nat) (written rest : List UInt8) :
    ∃ front, front <+: rest ∧ (transfer plan call written rest).written = written ++ front ∧
      ((transfer plan call written rest).fault = none → front = rest) := by
  fun_induction transfer plan call written rest with
  | case1 call written rest fault _ =>
    refine ⟨[], List.nil_prefix, by simp, ?_⟩
    intro h
    cases h
  | case2 call written rest _ _ fault _ =>
    refine ⟨[], List.nil_prefix, by simp, ?_⟩
    intro h
    cases h
  | case3 call written rest _ he _ =>
    -- at the end of the file nothing is left to be written
    have hr : rest = [] := List.isEmpty_iff.mp he
    subst hr
    exact ⟨[], List.prefix_rfl, by simp, fun _ => rfl⟩
  | case4 call written rest _ _ fault _ =>
    have hblock : (rest.take blockBytes).take fault.kept <+: rest :=
      (List.take_prefix _ _).trans (List.take_prefix _ _)
    refine ⟨_, hblock, rfl, ?_⟩
    intro h
    cases h
  | case5 call written rest _ _ _ ih =>
    obtain ⟨front, hfront, hwritten, hall⟩ := ih
    refine ⟨rest.take blockBytes ++ front, ?_, ?_, ?_⟩
    · obtain ⟨later, hlater⟩ := hfront
      exact ⟨later, by rw [List.append_assoc, hlater, List.take_append_drop]⟩
    · rw [hwritten, List.append_assoc]
    · intro h
      rw [hall h, List.take_append_drop]

/-- A copy of which both files can be opened puts a front part of the source at the target, and
succeeds only if it is all of it. -/
theorem CopiesTo.copyUnder_eq (h : d.CopiesTo source target s t) (plan : FaultPlan) :
    ∃ front, front <+: d.bytesAt s ∧ (d.copyUnder plan source target).2 = d.put t (.file front) ∧
      ((d.copyUnder plan source target).1 = .ok () ∧ front = d.bytesAt s ∨
        ∃ message, (d.copyUnder plan source target).1 = .error (.device message)) := by
  have hne : s ≠ t := ne_of_openToRead h.reads h.vacant
  have hbytes : (d.put t (.file [])).bytesAt s = d.bytesAt s := bytesAt_put_ne hne _
  obtain ⟨front, hfront, hwritten, hall⟩ := written_transfer plan 0 [] (d.bytesAt s)
  refine ⟨front, hfront, ?_, ?_⟩
  · simp only [copyUnder, h.reads, h.writes, hbytes, hwritten, List.nil_append]
  · simp only [copyUnder, h.reads, h.writes, hbytes]
    cases hfault : (transfer plan 0 [] (d.bytesAt s)).fault with
    | none => exact .inl ⟨rfl, hall hfault⟩
    | some fault => exact .inr ⟨fault.message, rfl⟩

end PanelConfig.Disk
