import PanelConfig.Disk.Copy
import PanelConfig.Proofs.Disk.Resolution

/-! Copies on a device that does not fail. A path at which there is no entry is either refused for
writing or leads to a vacant place, so a copy to it changes nothing or adds one file with the bytes
of the source. The file is then found by the path to which it was written, and the source is read as
before. -/

namespace PanelConfig.Disk

/-- The bytes that are read by a path. -/
def read (d : Disk) (path : String) : Except Failure (List UInt8) :=
  (d.openToRead path).map d.bytesAt

/-- All that stands on `before` stands unchanged on `after`. -/
def Keeps (before after : Disk) : Prop :=
  ∀ l e, before.find? l = some e → after.find? l = some e

/-- `after` is `before` with one more entry: a file with `bytes`, where nothing stood. -/
def GainsFile (before after : Disk) (bytes : List UInt8) : Prop :=
  ∃ l, before.find? l = none ∧
    after = { before with entries := (l, .file bytes) :: before.entries }

theorem Keeps.refl (d : Disk) : d.Keeps d := fun _ _ h => h

theorem Keeps.trans {d₁ d₂ d₃ : Disk} (h₁ : d₁.Keeps d₂) (h₂ : d₂.Keeps d₃) : d₁.Keeps d₃ :=
  fun l e h => h₂ l e (h₁ l e h)

variable {d : Disk} {path : String} {l s t : Location} {bytes : List UInt8}

theorem ne_nil_of_find?_ne_folder (h : d.find? l ≠ some .folder) : l ≠ [] := by
  rintro rfl
  exact h rfl

/-- Where nothing stands, an entry is put without taking one away. -/
theorem put_of_vacant (h : d.find? t = none) (e : Entry) :
    d.put t e = { d with entries := (t, e) :: d.entries } := by
  have ht : t ≠ [] := ne_nil_of_find?_ne_folder (d := d) (by simp [h])
  rw [find?, if_neg ht, List.lookup_eq_none_iff] at h
  rw [put, List.filter_eq_self.mpr]
  intro x hx
  have := h x hx
  simp only [bne_iff_ne, ne_eq] at this
  simpa using Ne.symm this

theorem gainsFile_put (h : d.find? t = none) (bytes : List UInt8) :
    d.GainsFile (d.put t (.file bytes)) bytes :=
  ⟨t, h, put_of_vacant h _⟩

theorem GainsFile.keeps {before after : Disk} (h : before.GainsFile after bytes) :
    before.Keeps after := by
  obtain ⟨t, ht, rfl⟩ := h
  intro l e hl
  have hne : l ≠ t := by
    rintro rfl
    simp [ht] at hl
  rw [← put_of_vacant ht, find?_put_ne hne, hl]

theorem bytesAt_put_ne (h : l ≠ t) (e : Entry) : (d.put t e).bytesAt l = d.bytesAt l := by
  rw [bytesAt, bytesAt, find?_put_ne h]

theorem bytesAt_of_find? (h : d.find? l = some (.file bytes)) : d.bytesAt l = bytes := by
  rw [bytesAt, h]

theorem openToRead_eq_ok_iff :
    d.openToRead path = .ok l ↔ hasNull path = false ∧ d.resolve .look path = .ok (.file l) := by
  rw [openToRead]
  cases hasNull path <;> cases d.resolve .look path with
  | error _ => simp
  | ok spot => cases spot <;> simp

theorem openToWrite_eq_ok_iff :
    d.openToWrite path = .ok l ↔ hasNull path = false ∧
      (d.resolve .write path = .ok (.file l) ∨ d.resolve .write path = .ok (.vacant l)) := by
  rw [openToWrite]
  cases hasNull path <;> cases d.resolve .write path with
  | error _ => simp
  | ok spot => cases spot <;> simp

theorem hasEntry_eq_true_iff :
    d.hasEntry path = .ok true ↔ hasNull path = false ∧
      ((∃ l, d.resolve .look path = .ok (.folder l)) ∨
        ∃ l, d.resolve .look path = .ok (.file l)) := by
  rw [hasEntry]
  cases hasNull path <;> cases d.resolve .look path with
  | error why => cases why <;> simp
  | ok spot => cases spot <;> simp

/-- What is read stands on the disk as a file. -/
theorem find?_of_openToRead (h : d.openToRead path = .ok s) :
    d.find? s = some (.file (d.bytesAt s)) := by
  obtain ⟨bytes, hb⟩ := fits_of_resolve (openToRead_eq_ok_iff.mp h).2
  rw [bytesAt_of_find? hb, hb]

theorem ne_of_openToRead (h : d.openToRead path = .ok s) (ht : d.find? t = none) : s ≠ t := by
  rintro rfl
  simp [find?_of_openToRead h] at ht

theorem ne_nil_of_openToWrite (h : d.openToWrite path = .ok t) : t ≠ [] := by
  apply ne_nil_of_find?_ne_folder (d := d)
  rcases (openToWrite_eq_ok_iff.mp h).2 with h | h
  · obtain ⟨bytes, hb⟩ := fits_of_resolve h
    simp [hb]
  · simp [show d.find? t = none from fits_of_resolve h]

/-- A file that is written by a path without an entry is made where nothing stood. -/
theorem vacant_of_openToWrite (hn : d.hasEntry path = .ok false) (h : d.openToWrite path = .ok t) :
    d.resolve .look path = .ok (.vacant t) := by
  obtain ⟨hnull, hw⟩ := openToWrite_eq_ok_iff.mp h
  rcases hw with hw | hw
  · have : d.hasEntry path = .ok true :=
      hasEntry_eq_true_iff.mpr ⟨hnull, .inr ⟨t, resolve_look hw⟩⟩
    rw [this] at hn
    cases hn
  · exact resolve_look hw

theorem find?_of_openToWrite (hn : d.hasEntry path = .ok false) (h : d.openToWrite path = .ok t) :
    d.find? t = none :=
  fits_of_resolve (vacant_of_openToWrite hn h)

theorem transfer_none (call : Nat) (written rest : List UInt8) :
    transfer FaultPlan.none call written rest = ⟨written ++ rest, none⟩ := by
  fun_induction transfer FaultPlan.none call written rest with
  | case1 _ _ _ fault h => cases h
  | case2 _ _ _ _ _ fault h => cases h
  | case3 call written rest _ he => simp [List.isEmpty_iff.mp he, FaultPlan.none]
  | case4 _ _ _ _ _ fault h => cases h
  | case5 call written rest _ _ _ ih => rw [ih, List.append_assoc, List.take_append_drop]

/-- A copy whose files can both be opened writes the bytes of the source, or none if they are one
file, which is emptied before it is read. -/
theorem copy_eq {source target : String} (hs : d.openToRead source = .ok s)
    (ht : d.openToWrite target = .ok t) :
    d.copy source target = (.ok (), d.put t (.file (if s = t then [] else d.bytesAt s))) := by
  have hb : (d.put t (.file [])).bytesAt s = if s = t then [] else d.bytesAt s := by
    split
    · next h => rw [h, bytesAt_put (ne_nil_of_openToWrite ht)]
    · next h => exact bytesAt_put_ne h _
  simp only [copy, copyUnder, hs, ht, transfer_none, List.nil_append, hb]

/-- A copy to a path without an entry that succeeds. -/
structure CopiesTo (d : Disk) (source target : String) (s t : Location) : Prop where
  reads : d.openToRead source = .ok s
  writes : d.openToWrite target = .ok t
  vacant : d.find? t = none
  copy_eq : d.copy source target = (.ok (), d.put t (.file (d.bytesAt s)))

/-- A copy to a path without an entry finds a file that cannot be opened and changes nothing,
whatever the device does, or makes the file. -/
theorem copy_cases {target : String} (source : String) (hn : d.hasEntry target = .ok false) :
    (∃ e, ∀ plan, d.copyUnder plan source target = (.error e, d)) ∨
      ∃ s t, d.CopiesTo source target s t := by
  cases hs : d.openToRead source with
  | error e => exact .inl ⟨e, fun plan => by simp only [copyUnder, hs]⟩
  | ok s =>
    cases ht : d.openToWrite target with
    | error e => exact .inl ⟨e, fun plan => by simp only [copyUnder, hs, ht]⟩
    | ok t =>
      have hv := find?_of_openToWrite hn ht
      exact .inr ⟨s, t, hs, ht, hv, by rw [Disk.copy_eq hs ht, if_neg (ne_of_openToRead hs hv)]⟩

/-- A file that is made at a vacant place is found by the path that led there. -/
theorem openToRead_put_self (hn : d.hasEntry path = .ok false) (h : d.openToWrite path = .ok t)
    (bytes : List UInt8) : (d.put t (.file bytes)).openToRead path = .ok t := by
  have ht := mayHoldFile_of_vacant (find?_of_openToWrite hn h)
  have hr := resolve_put ht bytes (vacant_of_openToWrite hn h)
  rw [Spot.afterMaking, if_pos rfl] at hr
  exact openToRead_eq_ok_iff.mpr ⟨(openToWrite_eq_ok_iff.mp h).1, hr⟩

/-- Files that could be read before a file is made are read as before. -/
theorem openToRead_put (ht : d.find? t = none) (h : d.openToRead path = .ok s)
    (bytes : List UInt8) : (d.put t (.file bytes)).openToRead path = .ok s := by
  obtain ⟨hnull, hr⟩ := openToRead_eq_ok_iff.mp h
  exact openToRead_eq_ok_iff.mpr ⟨hnull, resolve_put (mayHoldFile_of_vacant ht) bytes hr⟩

theorem read_put (ht : d.find? t = none) (h : d.openToRead path = .ok s) (bytes : List UInt8) :
    (d.put t (.file bytes)).read path = .ok (d.bytesAt s) := by
  rw [read, openToRead_put ht h, Except.map, bytesAt_put_ne (ne_of_openToRead h ht)]

theorem hasEntry_of_openToRead (h : d.openToRead path = .ok s) : d.hasEntry path = .ok true := by
  obtain ⟨hnull, hr⟩ := openToRead_eq_ok_iff.mp h
  exact hasEntry_eq_true_iff.mpr ⟨hnull, .inr ⟨s, hr⟩⟩

theorem CopiesTo.read_source {source target : String} (h : d.CopiesTo source target s t) :
    d.read source = .ok (d.bytesAt s) := by
  rw [read, h.reads, Except.map]

/-- After a copy to a path without an entry, both paths read the bytes of the source. -/
theorem CopiesTo.read_eq {source target : String} (h : d.CopiesTo source target s t)
    (hn : d.hasEntry target = .ok false) :
    (d.put t (.file (d.bytesAt s))).read target = .ok (d.bytesAt s) ∧
      (d.put t (.file (d.bytesAt s))).read source = .ok (d.bytesAt s) := by
  refine ⟨?_, read_put h.vacant h.reads _⟩
  rw [read, openToRead_put_self hn h.writes, Except.map,
    bytesAt_put (ne_nil_of_openToWrite h.writes)]

/-! What the disk refuses does not end the process. -/

end PanelConfig.Disk
