import PanelConfig.Proofs.Disk.Copying

/-! What becomes of a path, told by the walk along it. A path reaches an entry or a vacant place, or
it is too long for the system, or a name on its way is, or it comes to nothing. Asking for an entry
fails for paths that are too long alone, a file is opened to read where the path reaches one, and a
path that reaches no entry is opened to write where it reaches a vacant place. -/

namespace PanelConfig.Disk

/-- The system takes the path, and its names lead to a spot. -/
structure Reaches (d : Disk) (path : String) (spot : Spot) : Prop where
  noNull : hasNull path = false
  short : path.utf8ByteSize < pathBytesLimit
  notEmpty : path ≠ ""
  leads : d.Leads .look maxLinks (d.start path) (Path.names path) spot

/-- The path reaches an entry. -/
def Holds (d : Disk) (path : String) : Prop :=
  ∃ l, d.Reaches path (.folder l) ∨ d.Reaches path (.file l)

/-- The names lead from the folder `here` to a name that is too long to be looked up, through no
more than `links` links. -/
inductive MeetsLongName (d : Disk) : Nat → Location → List String → Prop
  | meet {links : Nat} {here : Location} {name : String} {rest : List String} :
      ¬(name = "" ∨ name = ".") → name ≠ ".." → maxNameBytes < name.utf8ByteSize →
      MeetsLongName d links here (name :: rest)
  | stay {links : Nat} {here : Location} {name : String} {rest : List String} :
      name = "" ∨ name = "." → MeetsLongName d links here rest →
      MeetsLongName d links here (name :: rest)
  | ascend {links : Nat} {here : Location} {rest : List String} :
      MeetsLongName d links here.dropLast rest → MeetsLongName d links here (".." :: rest)
  | enter {links : Nat} {here : Location} {name : String} {rest : List String} :
      LooksUp .look name rest → d.find? (here ++ [name]) = some .folder →
      MeetsLongName d links (here ++ [name]) rest → MeetsLongName d links here (name :: rest)
  | follow {links : Nat} {here : Location} {name target : String} {rest : List String} :
      LooksUp .look name rest → d.find? (here ++ [name]) = some (.link target) →
      MeetsLongName d links (if Path.isAbsolute target then [] else here)
        (Path.names target ++ rest) →
      MeetsLongName d (links + 1) here (name :: rest)

/-- The system takes the path for too long, as a whole or for a name on its way. -/
def IsTooLong (d : Disk) (path : String) : Prop :=
  hasNull path = false ∧ (pathBytesLimit ≤ path.utf8ByteSize ∨
    d.MeetsLongName maxLinks (d.start path) (Path.names path))

variable {d : Disk} {path : String} {links : Nat} {here : Location} {names : List String}
  {follow : Location → List String → Except Refusal Spot}

theorem meetsLongName_of_walkWith
    (hf : ∀ here names, follow here names = .error .nameTooLong →
      ∃ k, links = k + 1 ∧ d.MeetsLongName k here names)
    (h : d.walkWith .look follow here names = .error .nameTooLong) :
    d.MeetsLongName links here names := by
  fun_induction d.walkWith .look follow here names with
  | case1 | case8 | case9 | case10 | case11 => cases h
  | case2 here name rest hn ih => exact .stay hn (ih h)
  | case3 here rest hn ih => exact .ascend (ih h)
  | case4 here name rest _ _ hw => cases hw.1
  | case5 here name rest h1 h2 _ h4 => exact .meet h1 h2 h4
  | case6 here name rest h1 h2 h3 h4 hd ih => exact .enter ⟨h1, h2, h3, h4⟩ hd (ih h)
  | case7 here name rest h1 h2 h3 h4 target hd =>
    obtain ⟨k, rfl, hk⟩ := hf _ _ h
    exact .follow ⟨h1, h2, h3, h4⟩ hd hk

theorem meetsLongName_of_walk (h : d.walk .look links here names = .error .nameTooLong) :
    d.MeetsLongName links here names := by
  induction links generalizing here names with
  | zero => exact meetsLongName_of_walkWith (fun _ _ hf => by cases hf) h
  | succ links ih => exact meetsLongName_of_walkWith (fun _ _ hf => ⟨links, rfl, ih hf⟩) h

theorem MeetsLongName.walk_eq (h : d.MeetsLongName links here names) :
    d.walk .look links here names = .error .nameTooLong := by
  induction h with
  | @meet links _ _ _ hdot hparent hlong =>
    obtain ⟨follow, hw⟩ := walk_eq_walkWith d .look links
    rw [hw, walkWith, if_neg hdot, if_neg hparent, if_neg (by simp), if_pos hlong]
  | stay hn _ ih => rw [walk_skip hn, ih]
  | ascend _ ih => rw [walk_parent, ih]
  | enter hn hd _ ih => rw [walk_enter hn hd, ih]
  | follow hn hd _ ih => rw [walk_follow hn hd, ih]

/-- The walks that are refused for a name that is too long are the derivations. -/
theorem walk_eq_nameTooLong_iff :
    d.walk .look links here names = .error .nameTooLong ↔ d.MeetsLongName links here names :=
  ⟨meetsLongName_of_walk, MeetsLongName.walk_eq⟩

theorem not_meetsLongName_empty : ¬d.MeetsLongName links here [""] := by
  intro h
  generalize hnames : [""] = names at h
  cases h with
  | meet hdot =>
    cases hnames
    exact hdot (.inl rfl)
  | stay _ hrest =>
    cases hnames
    cases hrest
  | ascend => simp at hnames
  | enter hn | follow hn =>
    cases hnames
    exact hn.notDot (.inl rfl)

theorem resolve_eq_nameTooLong_iff :
    d.resolve .look path = .error .nameTooLong ↔ pathBytesLimit ≤ path.utf8ByteSize ∨
      d.MeetsLongName maxLinks (d.start path) (Path.names path) := by
  rw [resolve]
  split
  · next h => simp [h]
  next h =>
  split
  · next he =>
    subst he
    have hnone : ¬d.MeetsLongName maxLinks (d.start "") (Path.names "") :=
      not_meetsLongName_empty
    simp [hnone, pathBytesLimit]
  · simp only [h, false_or]
    exact walk_eq_nameTooLong_iff

/-- The system takes the path and each of its names, as far as their lengths go. -/
def IsShort (path : String) : Prop :=
  path.utf8ByteSize < pathBytesLimit ∧ ∀ name ∈ Path.names path, name.utf8ByteSize ≤ maxNameBytes

/-- No link on the disk has a name in its target that is too long. -/
def HasShortLinks (d : Disk) : Prop :=
  ∀ l target, d.find? l = some (.link target) →
    ∀ name ∈ Path.names target, name.utf8ByteSize ≤ maxNameBytes

theorem not_meetsLongName (hlinks : d.HasShortLinks)
    (hnames : ∀ name ∈ names, name.utf8ByteSize ≤ maxNameBytes) :
    ¬d.MeetsLongName links here names := by
  intro h
  induction h with
  | meet _ _ hlong => exact absurd hlong (Nat.not_lt.mpr (hnames _ List.mem_cons_self))
  | stay _ _ ih | ascend _ ih | enter _ _ _ ih =>
    exact ih fun name hn => hnames name (List.mem_cons_of_mem _ hn)
  | follow _ hd _ ih =>
    refine ih fun name hn => ?_
    rcases List.mem_append.mp hn with hn | hn
    · exact hlinks _ _ hd name hn
    · exact hnames name (List.mem_cons_of_mem _ hn)

theorem not_isTooLong (hlinks : d.HasShortLinks) (h : IsShort path) : ¬d.IsTooLong path := by
  rintro ⟨-, hlong | hlong⟩
  · exact absurd h.1 (Nat.not_lt.mpr hlong)
  · exact not_meetsLongName hlinks h.2 hlong

/-! What the calls of the system make of a path. -/

variable {spot : Spot} {l : Location} {e : Failure}

theorem reaches_iff :
    d.Reaches path spot ↔ hasNull path = false ∧ d.resolve .look path = .ok spot := by
  rw [resolve_eq_ok_iff]
  constructor
  · rintro ⟨hnull, hshort, hempty, hleads⟩
    exact ⟨hnull, hshort, hempty, hleads⟩
  · rintro ⟨hnull, hshort, hempty, hleads⟩
    exact ⟨hnull, hshort, hempty, hleads⟩

theorem isTooLong_iff :
    d.IsTooLong path ↔ hasNull path = false ∧ d.resolve .look path = .error .nameTooLong := by
  rw [IsTooLong, resolve_eq_nameTooLong_iff]

theorem hasEntry_eq_true_iff_holds : d.hasEntry path = .ok true ↔ d.Holds path := by
  rw [hasEntry_eq_true_iff]
  simp only [Holds, reaches_iff]
  grind

theorem hasEntry_eq_error_iff :
    d.hasEntry path = .error e ↔ d.IsTooLong path ∧ e = .refused .nameTooLong path := by
  rw [isTooLong_iff, hasEntry]
  cases hasNull path <;> cases d.resolve .look path with
  | error why => cases why <;> simp [eq_comm]
  | ok spot => cases spot <;> simp

theorem hasEntry_eq_false_iff :
    d.hasEntry path = .ok false ↔ ¬d.Holds path ∧ ¬d.IsTooLong path := by
  rw [← hasEntry_eq_true_iff_holds]
  cases h : d.hasEntry path with
  | error e => simp [(hasEntry_eq_error_iff.mp h).1]
  | ok b =>
    have hn : ¬d.IsTooLong path := by
      intro hlong
      rw [hasEntry_eq_error_iff.mpr ⟨hlong, rfl⟩] at h
      cases h
    cases b <;> simp [hn]

theorem openToRead_eq_ok_iff_reaches : d.openToRead path = .ok l ↔ d.Reaches path (.file l) :=
  openToRead_eq_ok_iff.trans reaches_iff.symm

/-- Of the entries, only a folder cannot be opened to read. -/
theorem openToRead_eq_error (h : d.Holds path) (hr : d.openToRead path = .error e) :
    e = .refused .isFolder path := by
  obtain ⟨l, hl | hl⟩ := h
  · obtain ⟨hnull, hspot⟩ := reaches_iff.mp hl
    rw [openToRead, hnull, if_neg Bool.false_ne_true, hspot] at hr
    exact (Except.error.inj hr).symm
  · rw [openToRead_eq_ok_iff_reaches.mpr hl] at hr
    cases hr

/-- A path without an entry is opened to write where it reaches a vacant place. -/
theorem openToWrite_eq_ok_iff_reaches (hn : d.hasEntry path = .ok false) :
    d.openToWrite path = .ok l ↔ d.Reaches path (.vacant l) := by
  constructor
  · intro h
    exact reaches_iff.mpr ⟨(openToWrite_eq_ok_iff.mp h).1, vacant_of_openToWrite hn h⟩
  · rintro ⟨hnull, hshort, hempty, hleads⟩
    have hw := resolve_eq_ok_iff.mpr ⟨hshort, hempty, hleads.write⟩
    exact openToWrite_eq_ok_iff.mpr ⟨hnull, .inr hw⟩

/-- A path to a vacant place reaches no entry. -/
theorem Reaches.hasEntry_eq_false (h : d.Reaches path (.vacant l)) :
    d.hasEntry path = .ok false := by
  obtain ⟨hnull, hspot⟩ := reaches_iff.mp h
  rw [hasEntry, hnull, if_neg Bool.false_ne_true, hspot]

/-- The failure is that of a path by which no file is opened: it holds a null character, or the
system refuses it. -/
inductive Unopened (path : String) : Failure → Prop
  | nullCharacter : hasNull path = true → Unopened path .nullCharacter
  | refused (why : Refusal) : hasNull path = false → Unopened path (.refused why path)

theorem unopened_of_openToRead (h : d.openToRead path = .error e) : Unopened path e := by
  rw [openToRead] at h
  cases hnull : hasNull path with
  | true =>
    rw [hnull, if_pos rfl] at h
    cases h
    exact .nullCharacter hnull
  | false =>
    rw [hnull, if_neg Bool.false_ne_true] at h
    split at h
    · cases h
    · cases h
      exact .refused _ hnull
    · cases h
      exact .refused _ hnull
    · cases h
      exact .refused _ hnull

theorem unopened_of_openToWrite (h : d.openToWrite path = .error e) : Unopened path e := by
  rw [openToWrite] at h
  cases hnull : hasNull path with
  | true =>
    rw [hnull, if_pos rfl] at h
    cases h
    exact .nullCharacter hnull
  | false =>
    rw [hnull, if_neg Bool.false_ne_true] at h
    split at h
    · cases h
    · cases h
    · cases h
      exact .refused _ hnull
    · cases h
      exact .refused _ hnull

/-! The two files of a copy. -/

/-- The system refuses to open a file of a copy: the one that is read, or else the one that is
written. -/
inductive RefusesCopy (d : Disk) (source target : String) : Failure → Prop
  | source {why : Refusal} : d.openToRead source = .error (.refused why source) →
      RefusesCopy d source target (.refused why source)
  | target {s : Location} {why : Refusal} : d.openToRead source = .ok s →
      d.openToWrite target = .error (.refused why target) →
      RefusesCopy d source target (.refused why target)

variable {source target : String} {s t : Location}

theorem copiesTo_of_reaches (hs : d.Reaches source (.file s)) (ht : d.Reaches target (.vacant t)) :
    d.CopiesTo source target s t := by
  have hn := ht.hasEntry_eq_false
  have hreads := openToRead_eq_ok_iff_reaches.mpr hs
  have hwrites := (openToWrite_eq_ok_iff_reaches hn).mpr ht
  have hvacant := find?_of_openToWrite hn hwrites
  refine ⟨hreads, hwrites, hvacant, ?_⟩
  rw [copy_eq hreads hwrites, if_neg (ne_of_openToRead hreads hvacant)]

/-- A copy from an entry to a path without one is refused, or comes upon a null character in the
path to which it goes, or makes its file at a vacant place. -/
theorem copy_opens (hs : d.hasEntry source = .ok true) (ht : d.hasEntry target = .ok false) :
    (∃ e, d.RefusesCopy source target e) ∨
      (∃ s, d.Reaches source (.file s) ∧ hasNull target = true ∧
        d.openToWrite target = .error .nullCharacter) ∨
      ∃ s t, d.Reaches source (.file s) ∧ d.Reaches target (.vacant t) := by
  cases hread : d.openToRead source with
  | error e =>
    obtain rfl := openToRead_eq_error (hasEntry_eq_true_iff_holds.mp hs) hread
    exact .inl ⟨_, .source hread⟩
  | ok s =>
    have hfile := openToRead_eq_ok_iff_reaches.mp hread
    cases hwrite : d.openToWrite target with
    | error e =>
      cases unopened_of_openToWrite hwrite with
      | nullCharacter hnull => exact .inr (.inl ⟨s, hfile, hnull, rfl⟩)
      | refused why => exact .inl ⟨_, .target hread hwrite⟩
    | ok t => exact .inr (.inr ⟨s, t, hfile, (openToWrite_eq_ok_iff_reaches ht).mp hwrite⟩)

end PanelConfig.Disk
