import PanelConfig.Proofs.Session
import PanelConfig.Proofs.Startup

/-! No operation of the panel itself loses what is stored. Apart from the operations that arrange a
disk from outside, each leaves the disk as it is or, if its migration ends with a copy, adds one
file with the bytes of the old database; over a session all that stands at some point stands at the
end. -/

namespace PanelConfig

namespace Operation

/-- The operation is none of those that place files, copy them or take them away. -/
def sparesDisk : Operation → Bool
  | .copyFile .. | .takeAway _ => false
  | .change c => c.items.isEmpty
  | _ => true

/-- The operation migrates, and tells that the database file is copied. -/
def TellsOfCopy (m : Machine) (op : Operation) : Prop :=
  match op with
  | .migrate .. => (op.emit m).answer = .ok (.outcome .copied)
  | .runService _ => Machine.outcomeRecord .copied ∈ (op.emit m).records
  | _ => False

end Operation

/-- A step that stores nothing but, after a copy that it tells of, one file with the bytes to which
the path of the old database led. -/
def Report.Stores (m : Machine) (op : Operation) (r : Report) : Prop :=
  r.machine.disk = m.disk ∨ op.TellsOfCopy m ∧ ∃ bytes,
    m.disk.read m.oldDatabase = .ok bytes ∧ m.disk.GainsFile r.machine.disk bytes

theorem Report.Stores.keeps {m : Machine} {op : Operation} {r : Report} (h : r.Stores m op) :
    m.disk.Keeps r.machine.disk := by
  rcases h with h | ⟨-, bytes, -, h⟩
  · rw [h]
    exact Disk.Keeps.refl _
  · exact h.keeps

namespace Machine

variable {m : Machine} {platform : Option String} {environ : Option Environment}

/-- A migration leaves the disk as it is, or ends with a copy. -/
theorem disk_migrate (m : Machine) (platform : Option String) (environ : Option Environment) :
    (m.migrate platform environ).disk = m.disk ∨
      (m.migrate platform environ).answer = .ok .copied ∧ ∃ bytes,
        m.disk.read m.oldDatabase = .ok bytes ∧
        m.disk.GainsFile (m.migrate platform environ).disk bytes := by
  rcases m.migrate_cases platform environ with h | ⟨base, s, t, h⟩
  · exact .inl h.disk_eq
  · refine .inr ⟨by rw [h.migrate_eq], m.disk.bytesAt s, h.copies.read_source, ?_⟩
    rw [h.migrate_eq]
    exact Disk.gainsFile_put h.copies.vacant _

theorem stores_migrate (m : Machine) (platform : Option String) (environ : Option Environment) :
    ((Operation.migrate platform environ).perform m).Stores m (.migrate platform environ) := by
  rcases m.disk_migrate platform environ with h | ⟨hc, h⟩
  · exact .inl h
  · refine .inr ⟨?_, h⟩
    simp only [Operation.TellsOfCopy, Operation.emit, hc, Except.map]

theorem stores_runService (m : Machine) (requests : List Service.Request) :
    ((Operation.runService requests).perform m).Stores m (.runService requests) := by
  have hd : ((Operation.runService requests).perform m).machine.disk = m.openingMigration.disk := by
    show (m.runService requests).machine.disk = _
    rw [machine_runService, started]
  rcases m.disk_migrate (some m.platform) none with h | ⟨hc, h⟩
  · exact .inl (hd.trans h)
  · refine .inr ⟨?_, by rw [hd]; exact h⟩
    simp only [Operation.TellsOfCopy, Operation.emit, runService_of_ok (o := .copied) hc]
    simp

theorem stores_perform {op : Operation} (h : op.sparesDisk = true) :
    (op.perform m).Stores m op := by
  cases op with
  | migrate platform environ => exact stores_migrate m platform environ
  | runService requests => exact stores_runService m requests
  | copyFile source target => cases h
  | takeAway path => cases h
  | change c =>
    left
    have hc : c.items = [] := List.isEmpty_iff.mp h
    simp [Operation.perform, Operation.emit, Operation.reading, changed, hc]
  | _ => exact .inl rfl

theorem keeps_after {ops : List Operation} (h : ∀ op ∈ ops, op.sparesDisk = true) :
    m.disk.Keeps (m.after ops).disk := by
  induction ops generalizing m with
  | nil => exact Disk.Keeps.refl _
  | cons op ops ih =>
    have hop := (stores_perform (m := m) (h op List.mem_cons_self)).keeps
    exact hop.trans (ih fun o ho => h o (List.mem_cons_of_mem _ ho))

/-- Nothing that is stored is ever lost. In every session of operations that spare the disk, each
entry that stands at some point stands at the end as it was, and each step adds at most one file,
with the bytes of the old database and only if it tells of a copy. -/
theorem stored_data_survives (m : Machine) (ops : List Operation)
    (h : ∀ op ∈ ops, op.sparesDisk = true) :
    (∀ i, (m.after (ops.take i)).disk.Keeps (m.after ops).disk) ∧
      ∀ i op (r : Report), ops[i]? = some op → (m.session ops)[i]? = some r →
        r.Stores (m.after (ops.take i)) op := by
  refine ⟨fun i => ?_, fun i op r hop hr => ?_⟩
  · have ha := m.after_append (ops.take i) (ops.drop i)
    rw [List.take_append_drop] at ha
    rw [ha]
    exact keeps_after fun op hop => h op (List.mem_of_mem_drop hop)
  · rw [session_getElem?, hop] at hr
    cases hr
    exact stores_perform (h op (List.mem_of_getElem? hop))

/-- A session on an outdated machine: it migrates, and then starts the service twice. -/
def outdatedSession : List Operation :=
  [.migrate none none, .runService [], .unset "XUI_DEBUG", .runService []]

theorem stored_data_survives_outdated :
    (∀ op ∈ outdatedSession, op.sparesDisk = true) ∧
      (outdated.after [.migrate none none]).disk.find? ["data.db"] = some (.file [83, 81, 76]) ∧
      (outdated.after [.migrate none none]).disk.Keeps (outdated.after outdatedSession).disk ∧
      ((Operation.migrate none none).perform outdated).Stores outdated (.migrate none none) := by
  have h : ∀ op ∈ outdatedSession, op.sparesDisk = true := by decide
  obtain ⟨hkeeps, hstores⟩ := stored_data_survives outdated outdatedSession h
  exact ⟨h, by decide +kernel, hkeeps 1, hstores 0 _ _ rfl rfl⟩

end Machine

end PanelConfig
