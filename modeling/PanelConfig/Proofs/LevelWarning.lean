import PanelConfig.Proofs.Migration
import PanelConfig.Proofs.Text.Quoted
import PanelConfig.Session
import PanelConfig.Text.Cut

/-! What setting up the log does, and the warning on a level that is not known. The warning is one
printable line, and the level can be read back from it. -/

namespace PanelConfig

open Text

namespace LevelChoice

variable {c d : LevelChoice}

/-- The message of the warning on a text that names no level. -/
def warning (s : String) : String := "Unknown log level " ++ quoted s ++ ", using info"

/-- The text that a warning says names no level. -/
def ofWarning? (message : String) : Option String := do
  let rest ← after? "Unknown log level ".toList message.toList
  let level ← before? ", using info".toList rest
  let text ← Quoted.decode level
  return String.ofList text

theorem toList_warning (s : String) :
    (warning s).toList =
      "Unknown log level ".toList ++ ((quoted s).toList ++ ", using info".toList) := by
  unfold warning
  rw [String.toList_append, String.toList_append, List.append_assoc]

theorem ofWarning?_warning (s : String) : ofWarning? (warning s) = some s := by
  simp only [ofWarning?, toList_warning, after?_append, before?_append, decode_quoted,
    Option.bind_eq_bind, Option.bind_some, Option.pure_def, String.ofList_toList]

theorem printable_warning (s : String) : Printable (warning s).toList := by
  have hopening : Printable "Unknown log level ".toList := .of_all (by decide +kernel)
  have hclosing : Printable ", using info".toList := .of_all (by decide +kernel)
  rw [toList_warning]
  exact hopening.append ((printable_quoted s).append hclosing)

theorem records_of_known {s : Severity} (h : c.severity? = some s) : c.records = [] := by
  rw [records, h]

theorem records_of_unknown (h : c.severity? = none) :
    c.records = [⟨.warning, .levels, warning c.text⟩] := by
  unfold records warning
  rw [h]
  rfl

/-- The threshold that a choice puts into effect lets through what is logged of it. -/
theorem visible_records (c : LevelChoice) : c.applied.visible c.records = c.records := by
  cases h : c.severity? with
  | none => rw [records_of_unknown h, applied, h, Option.getD_none]; rfl
  | some s => rw [records_of_known h]; rfl

/-- No two choices have the same warning: a choice that names no level is one that was written, and
its text is read back from the message. -/
theorem eq_of_records_eq (hc : c.severity? = none) (h : d.records = c.records) : d = c := by
  rw [records_of_unknown hc] at h
  cases hd : d.severity? with
  | some s =>
    rw [records_of_known hd] at h
    cases h
  | none =>
    rw [records_of_unknown hd] at h
    have hmessage : warning d.text = warning c.text := (Record.mk.inj (List.cons.inj h).1).2.2
    have htext : d.text = c.text := by
      have hread := ofWarning?_warning d.text
      rw [hmessage, ofWarning?_warning] at hread
      exact (Option.some.inj hread).symm
    cases c with
    | known => cases hc
    | written s =>
      cases d with
      | known => cases hd
      | written t => exact congrArg written htext

end LevelChoice

namespace Machine

theorem perform_setUpLog (m : Machine) (c : LevelChoice) :
    (Operation.setUpLog c).perform m =
      ⟨.ok (.logSetUp c.applied c.applied), c.records, m.withLevel c⟩ := by
  simp only [Operation.perform, Operation.emit, withLevel, LevelChoice.visible_records]

/-- Setting up the log is consistent, and its warning is faithful. The threshold that is answered is
the one in effect afterwards, whatever it was before: that of the level, or that of information if
the choice names no level. Then and only then is there a record, one warning that the new threshold
lets through, all of whose characters are printable, so that none ends a line or controls a
terminal. The text of the choice can be read back from the message, and no other choice is ever
logged with the same message. -/
theorem log_set_up_consistently (m : Machine) (c : LevelChoice) :
    let report := (Operation.setUpLog c).perform m
    report.answer = .ok (.logSetUp report.machine.threshold report.machine.threshold) ∧
      report.machine = { m with threshold := c.severity?.getD .info } ∧
      report.records = ((Operation.setUpLog c).emit m).records ∧
      (report.records ≠ [] ↔ c.severity? = none) ∧
      (c.severity? = none → ∃ message, report.records = [⟨.warning, .levels, message⟩] ∧
        (∀ x ∈ message.toList, isPrintable x = true ∧ covers controlRanges x.toNat = false) ∧
        LevelChoice.ofWarning? message = some c.text ∧
        ∀ (n : Machine) (d : LevelChoice),
          ((Operation.setUpLog d).perform n).records = report.records → d = c) := by
  intro report
  have hreport : report = ⟨.ok (.logSetUp c.applied c.applied), c.records, m.withLevel c⟩ :=
    perform_setUpLog m c
  rw [hreport]
  refine ⟨rfl, rfl, rfl, ?_, fun hc => ?_⟩
  · cases hc : c.severity? with
    | none => simp [LevelChoice.records_of_unknown hc]
    | some s => simp [LevelChoice.records_of_known hc]
  · have hprintable := LevelChoice.printable_warning c.text
    refine ⟨LevelChoice.warning c.text, LevelChoice.records_of_unknown hc, fun x hx => ?_,
      LevelChoice.ofWarning?_warning c.text, fun n d hd => ?_⟩
    · exact ⟨hprintable x hx, not_isControl_of_isPrintable (hprintable x hx)⟩
    · rw [perform_setUpLog] at hd
      exact LevelChoice.eq_of_records_eq hc hd

/-- A level that is not known, with both kinds of quotes, a line feed, the start of a sequence that
controls a terminal, and characters that are escaped in the two greater widths. -/
def forgedLevel : LevelChoice :=
  .written ("it's \"off\"\n\x1b[2J\\\u2028".push (Char.ofNat 0xE0001))

theorem log_set_up_consistently_forged :
    forgedLevel.severity? = none ∧
      ((Operation.setUpLog forgedLevel).perform outdated).machine.threshold = .info ∧
      ∃ message, ((Operation.setUpLog forgedLevel).perform outdated).records =
          [⟨.warning, .levels, message⟩] ∧
        LevelChoice.ofWarning? message = some forgedLevel.text ∧
        '\n' ∉ message.toList := by
  have hc : forgedLevel.severity? = none := by decide +kernel
  obtain ⟨-, hmachine, -, -, hwarned⟩ := log_set_up_consistently outdated forgedLevel
  obtain ⟨message, hrecords, hprintable, hread, -⟩ := hwarned hc
  refine ⟨hc, ?_, message, hrecords, hread, fun hmem => ?_⟩
  · rw [hmachine, hc, Option.getD_none]
  · exact absurd (hprintable _ hmem).2 (by decide)

end Machine

end PanelConfig
