import PanelConfig.Proofs.Containment
import PanelConfig.Proofs.Destination
import PanelConfig.Proofs.Path
import PanelConfig.Proofs.ThrowawayFolder
import PanelConfig.Proofs.Validation

/-! Where the base folder is. Main statements: a base folder that is taken from the executable is
the folder in which the executable stands, name by name, and the database file lies in it; it is
taken from there for an executable below the folder for temporary files only if that stands in the
folder itself. -/

namespace PanelConfig

open BaseFolder PanelConfig.Path Text

/-! The folder of an executable. -/

/-- What the path names stands in the folder: the last name of the path is what comes after it. -/
structure IsFolderOf (folder path : String) : Prop where
  nonempty : folder ≠ ""
  absolute : isAbsolute folder = isAbsolute path
  components : components folder ++ components (lastName path) = components path

namespace Path.Parted

variable {path : String} {front slashes name : List Char}

theorem ofExecutable_of_front (h : Parted path front slashes name) (hfront : front ≠ []) :
    ofExecutable path = String.ofList front := by
  rw [ofExecutable, orElse, h.folder_eq, if_neg hfront, if_neg]
  simpa using hfront

theorem ofExecutable_of_slashes (h : Parted path [] slashes name) (hslashes : slashes ≠ []) :
    ofExecutable path = String.ofList slashes := by
  rw [ofExecutable, orElse, h.folder_eq, if_pos rfl, if_neg]
  simpa using hslashes

theorem ofExecutable_of_name (h : Parted path [] [] name) : ofExecutable path = "." := by
  rw [ofExecutable, orElse, h.folder_eq]
  rfl

end Path.Parted

theorem isAbsolute_ofList_append {cs : List Char} (h : cs ≠ []) (ds : List Char) :
    isAbsolute (String.ofList (cs ++ ds)) = isAbsolute (String.ofList cs) := by
  obtain ⟨c, cs, rfl⟩ := List.exists_cons_of_ne_nil h
  simp [isAbsolute]

theorem components_of_slashes {slashes : List Char} (h : ∀ c ∈ slashes, c = '/') :
    components (String.ofList slashes) = [] := by
  have hall := components_slashes_append h []
  rw [List.append_nil] at hall
  rw [hall]
  rfl

namespace Path.Parted

variable {path : String} {front slashes name : List Char}

theorem eq_ofList (h : Parted path front slashes name) :
    path = String.ofList (front ++ (slashes ++ name)) := by
  rw [← List.append_assoc, ← h.eq, String.ofList_toList]

theorem isFolderOf_of_front (h : Parted path front slashes name) (hfront : front ≠ []) :
    IsFolderOf (ofExecutable path) path := by
  obtain ⟨c, slashes, rfl⟩ := List.exists_cons_of_ne_nil (h.apart hfront)
  obtain rfl := h.slash c List.mem_cons_self
  rw [h.ofExecutable_of_front hfront]
  refine ⟨by simpa using hfront, ?_, ?_⟩
  · rw [h.eq_ofList, isAbsolute_ofList_append hfront]
  · rw [h.lastName_eq, h.eq_ofList, List.cons_append, components_append_cons,
      components_slashes_append fun d hd => h.slash d (List.mem_cons_of_mem _ hd)]

theorem isFolderOf_of_slashes (h : Parted path [] slashes name) (hslashes : slashes ≠ []) :
    IsFolderOf (ofExecutable path) path := by
  rw [h.ofExecutable_of_slashes hslashes]
  refine ⟨by simpa using hslashes, ?_, ?_⟩
  · rw [h.eq_ofList, List.nil_append, isAbsolute_ofList_append hslashes]
  · rw [h.lastName_eq, h.eq_ofList, List.nil_append, components_slashes_append h.slash,
      components_of_slashes h.slash, List.nil_append]

theorem isFolderOf_of_name (h : Parted path [] [] name) :
    IsFolderOf (ofExecutable path) path := by
  have hpath : path = String.ofList name := h.eq_ofList
  have hhead : name.head? ≠ some '/' := fun hc => h.notMem (List.mem_of_head? hc)
  have habsolute : isAbsolute path = false := by
    rw [hpath, isAbsolute, String.toList_ofList]
    simpa using hhead
  rw [h.ofExecutable_of_name]
  refine ⟨by decide, ?_, ?_⟩
  · rw [habsolute]
    rfl
  · rw [h.lastName_eq, ← hpath]
    rfl

end Path.Parted

theorem isFolderOf_ofExecutable (path : String) : IsFolderOf (ofExecutable path) path := by
  obtain ⟨front, slashes, name, h⟩ := exists_parted path
  by_cases hfront : front = []
  · subst hfront
    by_cases hslashes : slashes = []
    · subst hslashes
      exact h.isFolderOf_of_name
    · exact h.isFolderOf_of_slashes hslashes
  · exact h.isFolderOf_of_front hfront

namespace Machine

variable {m : Machine}

/-- The executable is known and stands in a throwaway folder. -/
def IsThrowaway (m : Machine) : Prop :=
  ∃ path, m.executable = some path ∧ path ≠ "" ∧ isEphemeral (ofExecutable path) = true

/-- The search for the base folder ends with a folder. -/
inductive FindsBase (m : Machine) : BaseFolder → Prop
  | executable {path : String} : m.executable = some path → path ≠ "" →
      isEphemeral (ofExecutable path) = false → FindsBase m ⟨ofExecutable path, .executable⟩
  | workingFolder {folder : String} : m.IsThrowaway → m.workingFolder = .found folder →
      FindsBase m ⟨folder, .workingFolder⟩
  | unknown : m.executable = none ∨ m.executable = some "" → FindsBase m lastResort
  | untold {fault : FolderFault} {message : String} : m.IsThrowaway →
      m.workingFolder = .failed fault message → fault.isSystem = true → FindsBase m lastResort

theorem getD_eq_empty_iff {x : Option String} : x.getD "" = "" ↔ x = none ∨ x = some "" := by
  cases x with
  | none => simp
  | some s => simp

theorem baseFolder_of_isThrowaway (h : m.IsThrowaway) :
    m.baseFolder = match m.workingFolder.answer with
      | .ok folder => .ok ⟨folder, .workingFolder⟩
      | .error e => if e.isSystem then .ok lastResort else .error e := by
  obtain ⟨path, hexecutable, hne, hephemeral⟩ := h
  rw [baseFolder, hexecutable, Option.getD_some, if_neg hne]
  exact if_pos hephemeral

theorem findsBase_of_baseFolder {base : BaseFolder} (h : m.baseFolder = .ok base) :
    m.FindsBase base := by
  by_cases hunknown : m.executable.getD "" = ""
  · rw [baseFolder, if_pos hunknown] at h
    cases h
    exact .unknown (getD_eq_empty_iff.mp hunknown)
  · obtain ⟨path, hexecutable⟩ : ∃ path, m.executable = some path :=
      Option.ne_none_iff_exists'.mp fun hnone => hunknown (by rw [hnone]; rfl)
    rw [hexecutable, Option.getD_some] at hunknown
    cases hephemeral : isEphemeral (ofExecutable path) with
    | false =>
      rw [baseFolder, hexecutable, Option.getD_some, if_neg hunknown,
        if_neg (by rw [hephemeral]; exact Bool.false_ne_true)] at h
      obtain rfl := Except.ok.inj h
      exact .executable hexecutable hunknown hephemeral
    | true =>
      have hthrowaway : m.IsThrowaway := ⟨path, hexecutable, hunknown, hephemeral⟩
      rw [baseFolder_of_isThrowaway hthrowaway] at h
      cases hw : m.workingFolder with
      | found folder =>
        rw [hw] at h
        cases h
        exact .workingFolder hthrowaway hw
      | failed fault message =>
        rw [hw, FolderQuery.answer] at h
        cases hsystem : fault.isSystem with
        | true =>
          simp only [Failure.isSystem, hsystem, if_true] at h
          cases h
          exact .untold hthrowaway hw hsystem
        | false =>
          simp only [Failure.isSystem, hsystem, Bool.false_eq_true, if_false] at h
          cases h

theorem FindsBase.baseFolder_eq {base : BaseFolder} (h : m.FindsBase base) :
    m.baseFolder = .ok base := by
  cases h with
  | executable hexecutable hne hephemeral =>
    rw [baseFolder, hexecutable, Option.getD_some, if_neg hne,
      if_neg (by rw [hephemeral]; exact Bool.false_ne_true)]
  | workingFolder hthrowaway hw =>
    rw [baseFolder_of_isThrowaway hthrowaway, hw, FolderQuery.answer]
  | unknown hunknown => rw [baseFolder, if_pos (getD_eq_empty_iff.mpr hunknown)]
  | untold hthrowaway hw hsystem =>
    rw [baseFolder_of_isThrowaway hthrowaway, hw]
    simp only [FolderQuery.answer, Failure.isSystem, hsystem, if_true]

theorem baseFolder_eq_ok_iff {base : BaseFolder} : m.baseFolder = .ok base ↔ m.FindsBase base :=
  ⟨findsBase_of_baseFolder, FindsBase.baseFolder_eq⟩

theorem isThrowaway_iff {path : String} (hexecutable : m.executable = some path)
    (hne : path ≠ "") : m.IsThrowaway ↔ isEphemeral (ofExecutable path) = true := by
  constructor
  · rintro ⟨other, hother, -, hephemeral⟩
    obtain rfl := Option.some.inj (hexecutable.symm.trans hother)
    exact hephemeral
  · intro hephemeral
    exact ⟨path, hexecutable, hne, hephemeral⟩

/-- A known executable is either in a throwaway folder or the base folder is its own. -/
theorem FindsBase.cases_of_executable {base : BaseFolder} {path : String} (h : m.FindsBase base)
    (hexecutable : m.executable = some path) (hne : path ≠ "") :
    base = ⟨ofExecutable path, .executable⟩ ∧ isEphemeral (ofExecutable path) = false ∨
      (base.source = .workingFolder ∨ base.source = .fallback) ∧
        isEphemeral (ofExecutable path) = true := by
  cases h with
  | executable hother _ hephemeral =>
    obtain rfl := Option.some.inj (hexecutable.symm.trans hother)
    exact .inl ⟨rfl, hephemeral⟩
  | workingFolder hthrowaway _ =>
    exact .inr ⟨.inl rfl, (isThrowaway_iff hexecutable hne).mp hthrowaway⟩
  | untold hthrowaway _ _ =>
    exact .inr ⟨.inr rfl, (isThrowaway_iff hexecutable hne).mp hthrowaway⟩
  | unknown hunknown =>
    rw [hexecutable] at hunknown
    rcases hunknown with hnone | hempty
    · cases hnone
    · exact absurd (Option.some.inj hempty) hne

theorem losesBase_iff {e : Failure} : m.LosesBase e ↔ m.IsThrowaway ∧ ∃ fault message,
    m.workingFolder = .failed fault message ∧ fault.isSystem = false ∧
      e = .workingFolder fault message := by
  constructor
  · rintro ⟨rfl, hne, hephemeral, hw, hsystem⟩
    obtain ⟨path, hexecutable⟩ : ∃ path, m.executable = some path :=
      Option.ne_none_iff_exists'.mp fun hnone => hne (by rw [hnone]; rfl)
    rw [hexecutable, Option.getD_some] at hne hephemeral
    exact ⟨⟨path, hexecutable, hne, hephemeral⟩, _, _, hw, hsystem, rfl⟩
  · rintro ⟨⟨path, hexecutable, hne, hephemeral⟩, fault, message, hw, hsystem, rfl⟩
    exact .lose (by rw [hexecutable, Option.getD_some]) hne hephemeral hw hsystem

theorem baseFolder_eq_executable_iff {folder : String} :
    m.baseFolder = .ok ⟨folder, .executable⟩ ↔ ∃ path, m.executable = some path ∧ path ≠ "" ∧
      isEphemeral (ofExecutable path) = false ∧ folder = ofExecutable path := by
  rw [baseFolder_eq_ok_iff]
  constructor
  · intro h
    generalize hbase : (⟨folder, .executable⟩ : BaseFolder) = base at h
    have hsource : base.source = .executable := by rw [← hbase]
    have hpath : folder = base.path := by rw [← hbase]
    cases h with
    | @executable path hexecutable hne hephemeral =>
      dsimp only at hpath
      exact ⟨path, hexecutable, hne, hephemeral, hpath⟩
    | workingFolder | unknown | untold => cases hsource
  · rintro ⟨path, hexecutable, hne, hephemeral, hfolder⟩
    rw [hfolder]
    exact .executable hexecutable hne hephemeral

theorem baseFolder_eq_workingFolder_iff {folder : String} :
    m.baseFolder = .ok ⟨folder, .workingFolder⟩ ↔
      m.IsThrowaway ∧ m.workingFolder = .found folder := by
  rw [baseFolder_eq_ok_iff]
  constructor
  · intro h
    generalize hbase : (⟨folder, .workingFolder⟩ : BaseFolder) = base at h
    have hsource : base.source = .workingFolder := by rw [← hbase]
    have hpath : folder = base.path := by rw [← hbase]
    cases h with
    | workingFolder hthrowaway hw => exact ⟨hthrowaway, hw.trans (by rw [hpath])⟩
    | executable | unknown | untold => cases hsource
  · rintro ⟨hthrowaway, hw⟩
    exact .workingFolder hthrowaway hw

theorem baseFolder_eq_fallback_iff {folder : String} :
    m.baseFolder = .ok ⟨folder, .fallback⟩ ↔ folder = "." ∧
      (m.executable = none ∨ m.executable = some "" ∨ m.IsThrowaway ∧ ∃ fault message,
        m.workingFolder = .failed fault message ∧ fault.isSystem = true) := by
  rw [baseFolder_eq_ok_iff]
  constructor
  · intro h
    generalize hbase : (⟨folder, .fallback⟩ : BaseFolder) = base at h
    have hsource : base.source = .fallback := by rw [← hbase]
    have hpath : folder = base.path := by rw [← hbase]
    cases h with
    | executable | workingFolder => cases hsource
    | unknown hunknown => exact ⟨hpath, hunknown.imp_right .inl⟩
    | untold hthrowaway hw hsystem => exact ⟨hpath, .inr (.inr ⟨hthrowaway, _, _, hw, hsystem⟩)⟩
  · rintro ⟨rfl, hnone | hempty | ⟨hthrowaway, fault, message, hw, hsystem⟩⟩
    · exact .unknown (.inl hnone)
    · exact .unknown (.inr hempty)
    · exact .untold hthrowaway hw hsystem

/-- In a base folder the database file is found under its own name. -/
theorem components_databaseFile (m : Machine) (folder : String) :
    components (m.databaseFile folder) = components folder ++ components (m.name ++ ".db") := by
  rw [databaseFile, String.append_assoc, components_append_slash]
  rfl

/-- On Windows the database lies where the executable does. A base folder that is taken from the
executable is the folder in which that stands, written in some way that is not throwaway, and with
no folder set the path of the database file leads to its name in that folder. Every other base
folder is the working folder, which is asked for only where the executable is in a throwaway folder,
or the folder of last resort, and the search ends without a folder exactly where that question ends
with a failure that is not of the system. -/
theorem database_stands_by_executable (m : Machine) :
    (∀ folder, m.baseFolder = .ok ⟨folder, .executable⟩ →
      ∃ path, m.executable = some path ∧ path ≠ "" ∧ IsFolderOf folder path ∧
        isEphemeral folder = false ∧
        ∀ platform, m.isWindows platform = true → m.environment.Lacks .databaseFolder →
          Text.lower (m.environment.value .connection) ≠ "mysql" →
          ∃ text, m.databasePath platform = .ok text ∧
            components text = components folder ++ components (m.name ++ ".db")) ∧
    (∀ folder, m.baseFolder = .ok ⟨folder, .workingFolder⟩ ↔
      m.IsThrowaway ∧ m.workingFolder = .found folder) ∧
    (∀ folder, m.baseFolder = .ok ⟨folder, .fallback⟩ ↔ folder = "." ∧
      (m.executable = none ∨ m.executable = some "" ∨ m.IsThrowaway ∧ ∃ fault message,
        m.workingFolder = .failed fault message ∧ fault.isSystem = true)) ∧
    ∀ e, m.baseFolder = .error e ↔ m.IsThrowaway ∧ ∃ fault message,
      m.workingFolder = .failed fault message ∧ fault.isSystem = false ∧
        e = .workingFolder fault message := by
  refine ⟨fun folder h => ?_, fun folder => baseFolder_eq_workingFolder_iff,
    fun folder => baseFolder_eq_fallback_iff,
    fun e => baseFolder_eq_error_iff.trans losesBase_iff⟩
  obtain ⟨path, hexecutable, hne, hephemeral, hfolder⟩ := baseFolder_eq_executable_iff.mp h
  refine ⟨path, hexecutable, hne, hfolder ▸ isFolderOf_ofExecutable path, hfolder ▸ hephemeral,
    fun platform hwindows hlacks hconnection =>
      ⟨m.databaseFile folder, ?_, components_databaseFile m folder⟩⟩
  have hbelongs : m.BelongsIn platform none ⟨folder, .executable⟩ :=
    ⟨hwindows, Environment.value_eq_empty_iff.mpr hlacks, h⟩
  rw [databasePath_of_file hconnection, databaseFolder_of_belongsIn hbelongs]
  rfl

/-- The machine with an executable in the root folder. -/
def atRoot (m : Machine) : Machine := { m with executable := some "//x-ui.exe" }

/-- The folder at the root keeps its slashes, so that the path of the database has one more. -/
theorem database_stands_by_executable_atRoot :
    outdated.atRoot.baseFolder = .ok ⟨"//", .executable⟩ ∧
      outdated.atRoot.isWindows none = true ∧
      outdated.atRoot.environment.Lacks .databaseFolder ∧
      Text.lower (outdated.atRoot.environment.value .connection) ≠ "mysql" ∧
      (∃ path text, outdated.atRoot.executable = some path ∧ IsFolderOf "//" path ∧
        outdated.atRoot.databasePath none = .ok text ∧
        components text = components "//" ++ components "x-ui.db") ∧
      outdated.adrift.workingFolder = .failed .broken "lost" ∧ outdated.adrift.IsThrowaway ∧
      outdated.adrift.baseFolder = .error (.workingFolder .broken "lost") := by
  have hroot : outdated.atRoot.baseFolder = .ok ⟨"//", .executable⟩ := by decide +kernel
  have hwindows : outdated.atRoot.isWindows none = true := by decide +kernel
  have hlacks : outdated.atRoot.environment.Lacks .databaseFolder := .inl (by decide +kernel)
  have hconnection : Text.lower (outdated.atRoot.environment.value .connection) ≠ "mysql" := by
    decide +kernel
  have hname : outdated.atRoot.name = "x-ui" := by decide +kernel
  have hthrowaway : outdated.adrift.IsThrowaway :=
    ⟨"/tmp/go-build/x-ui", rfl, by decide, by decide +kernel⟩
  obtain ⟨hexecutable, -, -, -⟩ := database_stands_by_executable outdated.atRoot
  obtain ⟨-, -, -, herror⟩ := database_stands_by_executable outdated.adrift
  obtain ⟨path, hpath, -, hfolder, -, hdatabase⟩ := hexecutable "//" hroot
  obtain ⟨text, htext, hcomponents⟩ := hdatabase none hwindows hlacks hconnection
  rw [hname] at hcomponents
  exact ⟨hroot, hwindows, hlacks, hconnection, ⟨path, text, hpath, hfolder, htext, hcomponents⟩,
    rfl, hthrowaway, (herror _).mpr ⟨hthrowaway, .broken, "lost", rfl, rfl, rfl⟩⟩

/-! Executables below the folder for temporary files. -/

/-- The folder for temporary files: it is told by the last three names of its path, in any case of
their letters. -/
def IsTemporaryFolder (folder : String) : Prop :=
  ∃ above a l t : String, folder = above ++ "/" ++ a ++ "/" ++ l ++ "/" ++ t ∧
    SameLetters a "AppData" ∧ SameLetters l "Local" ∧ SameLetters t "Temp"

/-- The rest of a path leads to a name in the folder at its start, and no further: all of its
slashes come before the name. -/
def StandsDirectly (rest : String) : Prop :=
  ∃ slashes name, rest.toList = slashes ++ name ∧ (∀ c ∈ slashes, c = '/') ∧ '/' ∉ name

theorem standsDirectly_iff {rest : String} :
    StandsDirectly rest ↔ '/' ∉ rest.toList.dropWhile (· = '/') := by
  constructor
  · rintro ⟨slashes, name, hsplit, hslashes, hname⟩ hmem
    rw [hsplit, List.dropWhile_append_of_pos fun c hc => decide_eq_true (hslashes c hc)] at hmem
    exact hname ((List.dropWhile_suffix _).subset hmem)
  · intro hname
    refine ⟨_, _, List.takeWhile_append_dropWhile.symm, fun c hc => ?_, hname⟩
    exact of_decide_eq_true (List.all_eq_true.mp List.all_takeWhile c hc)

instance (rest : String) : Decidable (StandsDirectly rest) :=
  decidable_of_iff _ standsDirectly_iff.symm

/-- A word without a backslash is leveled to its small letters, and so are its variants. -/
theorem map_leveled_of_sameLetters {s w : String} (h : SameLetters s w)
    (hw : '\\' ∉ w.toList.map Char.toLower) :
    s.toList.map leveled = w.toList.map Char.toLower := by
  rw [← h] at hw ⊢
  refine List.map_congr_left fun c hc => ?_
  rw [leveled, if_neg]
  rintro rfl
  exact hw (List.mem_map.mpr ⟨'\\', hc, by decide⟩)

/-- What does not stand in a folder itself stands in a folder below it. -/
theorem exists_ofExecutable_of_not {folder rest : String} (hrest : ¬StandsDirectly rest) :
    ∃ below, ofExecutable (folder ++ "/" ++ rest) = folder ++ "/" ++ below := by
  obtain ⟨front, slashes, name, h⟩ := exists_parted rest
  have hfront : front ≠ [] := by
    rintro rfl
    exact hrest ⟨slashes, name, h.eq, h.slash, h.notMem⟩
  have hparted : Parted (folder ++ "/" ++ rest) (folder.toList ++ '/' :: front) slashes name := by
    refine ⟨?_, h.slash, h.notMem, ?_, fun _ => h.apart hfront⟩
    · simp [h.eq]
    · rw [List.getLast?_append_of_ne_nil _ (List.cons_ne_nil _ _),
        List.getLast?_cons_of_ne_nil hfront]
      exact h.notLast
  refine ⟨String.ofList front, ?_⟩
  rw [hparted.ofExecutable_of_front (by simp), ← String.toList_inj]
  simp

namespace IsTemporaryFolder

variable {folder : String}

/-- All that stands below the folder is throwaway. -/
theorem isEphemeral_append (h : IsTemporaryFolder folder) (rest : String) :
    isEphemeral (folder ++ "/" ++ rest) = true := by
  obtain ⟨above, a, l, t, rfl, ha, hl, ht⟩ := h
  rw [isEphemeral_iff_exists_mark]
  refine ⟨"/appdata/local/temp/", by decide, above.toList.map leveled, rest.toList.map leveled, ?_⟩
  have hslash : "/".toList.map leveled = ['/'] := by decide
  simp only [String.toList_append, List.map_append, hslash,
    map_leveled_of_sameLetters ha (by decide), map_leveled_of_sameLetters hl (by decide),
    map_leveled_of_sameLetters ht (by decide), List.append_assoc]
  congr 1

theorem getLast?_toList (h : IsTemporaryFolder folder) :
    ∃ c, folder.toList.getLast? = some c ∧ c ≠ '/' := by
  obtain ⟨above, a, l, t, rfl, -, -, ht⟩ := h
  have hlast := congrArg List.getLast? ht
  rw [List.getLast?_map] at hlast
  obtain ⟨c, hc, hlower⟩ := Option.map_eq_some_iff.mp (hlast.trans (by decide : _ = some 'p'))
  refine ⟨c, ?_, ?_⟩
  · rw [String.toList_append, List.getLast?_append, hc]
    rfl
  · rintro rfl
    exact absurd hlower (by decide)

theorem ofExecutable_of_standsDirectly (h : IsTemporaryFolder folder) {rest : String}
    (hrest : StandsDirectly rest) : ofExecutable (folder ++ "/" ++ rest) = folder := by
  obtain ⟨c, hlast, hc⟩ := h.getLast?_toList
  obtain ⟨slashes, name, hsplit, hslashes, hname⟩ := hrest
  have hfront : folder.toList ≠ [] := by
    rintro hnil
    rw [hnil] at hlast
    cases hlast
  have hparted : Parted (folder ++ "/" ++ rest) folder.toList ('/' :: slashes) name := by
    refine ⟨?_, List.forall_mem_cons.mpr ⟨rfl, hslashes⟩, hname, ?_, nofun⟩
    · simp [hsplit]
    · rw [hlast]
      exact fun he => hc (Option.some.inj he)
  rw [hparted.ofExecutable_of_front hfront, String.ofList_toList]

theorem isEphemeral_ofExecutable_iff (h : IsTemporaryFolder folder) (rest : String) :
    isEphemeral (ofExecutable (folder ++ "/" ++ rest)) = true ↔
      ¬StandsDirectly rest ∨ isEphemeral folder = true := by
  by_cases hrest : StandsDirectly rest
  · rw [h.ofExecutable_of_standsDirectly hrest]
    exact (or_iff_right fun hnot => hnot hrest).symm
  · obtain ⟨below, hbelow⟩ := exists_ofExecutable_of_not hrest
    rw [hbelow]
    exact iff_of_true (h.isEphemeral_append below) (.inl hrest)

end IsTemporaryFolder

/-- An executable below the folder for temporary files is in a throwaway folder, and the database is
kept elsewhere, unless it stands in that folder itself: the mark of the folder ends with a slash
that its path does not have. It is then throwaway only for another mark in its path, and without one
the base folder is the folder for temporary files, where the database is kept on Windows with no
folder set. -/
theorem kept_elsewhere_unless_direct {folder rest : String} (hfolder : IsTemporaryFolder folder)
    (hexecutable : m.executable = some (folder ++ "/" ++ rest)) (hquery : m.HasSoundQuery) :
    ∃ base, m.baseFolder = .ok base ∧
      (base.source = .workingFolder ∨ base.source = .fallback ↔
        ¬StandsDirectly rest ∨ isEphemeral folder = true) ∧
      (base.source = .executable → base.path = folder ∧
        ∀ platform, m.isWindows platform = true → m.environment.Lacks .databaseFolder →
          m.databaseFolder platform = .ok folder) := by
  have hne : folder ++ "/" ++ rest ≠ "" := by
    intro hempty
    have hlist := congrArg String.toList hempty
    simp at hlist
  have hiff := hfolder.isEphemeral_ofExecutable_iff rest
  obtain ⟨base, hbase⟩ := exists_baseFolder hquery
  refine ⟨base, hbase, ?_⟩
  rcases (baseFolder_eq_ok_iff.mp hbase).cases_of_executable hexecutable hne with
    ⟨rfl, hephemeral⟩ | ⟨hsource, hephemeral⟩
  · have hneither : ¬(¬StandsDirectly rest ∨ isEphemeral folder = true) :=
      mt hiff.mpr (Bool.eq_false_iff.mp hephemeral)
    have hdirect : StandsDirectly rest := Classical.not_not.mp (not_or.mp hneither).1
    rw [hfolder.ofExecutable_of_standsDirectly hdirect] at hbase ⊢
    refine ⟨iff_of_false nofun hneither, fun _ => ⟨rfl, fun platform hwindows hlacks => ?_⟩⟩
    have hbelongs : m.BelongsIn platform none ⟨folder, .executable⟩ :=
      ⟨hwindows, Environment.value_eq_empty_iff.mpr hlacks, hbase⟩
    exact databaseFolder_of_belongsIn hbelongs
  · refine ⟨iff_of_true hsource (hiff.mp hephemeral), fun hexecutable => ?_⟩
    rw [hexecutable] at hsource
    exact absurd hsource nofun

/-- The machine with another executable. -/
def running (m : Machine) (path : String) : Machine := { m with executable := some path }

/-- An executable that stands in the folder for temporary files is not taken for a throwaway one,
although the working folder can be told, and the database is kept beside it. -/
theorem temporary_folder_keeps_database :
    IsTemporaryFolder "C:/Users/Me/AppData/Local/Temp" ∧
      outdated.workingFolder = .found "/work" ∧ outdated.isWindows none = true ∧
      (outdated.running "C:/Users/Me/AppData/Local/Temp/x-ui.exe").baseFolder =
        .ok ⟨"C:/Users/Me/AppData/Local/Temp", .executable⟩ ∧
      (outdated.running "C:/Users/Me/AppData/Local/Temp/x-ui.exe").databasePath none =
        .ok "C:/Users/Me/AppData/Local/Temp/x-ui.db" :=
  ⟨⟨"C:/Users/Me", "AppData", "Local", "Temp", by decide, by decide, by decide, by decide⟩, rfl,
    by decide +kernel, by decide +kernel, by decide +kernel⟩

/-- The database of the one executable is kept in the folder for temporary files. That of the other,
in a folder below, is not. -/
theorem kept_elsewhere_unless_direct_unpacked :
    IsTemporaryFolder "/APPDATA/local/Temp" ∧ StandsDirectly "/x-ui.exe" ∧
      ¬StandsDirectly "_MEI1/x-ui.exe" ∧
      (outdated.running "/APPDATA/local/Temp//x-ui.exe").HasSoundQuery ∧
      (outdated.running "/APPDATA/local/Temp//x-ui.exe").databaseFolder none =
        .ok "/APPDATA/local/Temp" ∧
      (outdated.running "/APPDATA/local/Temp/_MEI1/x-ui.exe").HasSoundQuery ∧
      ∃ base, (outdated.running "/APPDATA/local/Temp/_MEI1/x-ui.exe").baseFolder = .ok base ∧
        (base.source = .workingFolder ∨ base.source = .fallback) := by
  have hfolder : IsTemporaryFolder "/APPDATA/local/Temp" :=
    ⟨"", "APPDATA", "local", "Temp", by decide, by decide, by decide, by decide⟩
  have hdirect : StandsDirectly "/x-ui.exe" := by decide +kernel
  have hbelow : ¬StandsDirectly "_MEI1/x-ui.exe" := by decide +kernel
  have hquery : ∀ path, (outdated.running path).HasSoundQuery := fun _ _ _ h => by cases h
  have hlacks : (outdated.running "/APPDATA/local/Temp//x-ui.exe").environment.Lacks
      .databaseFolder := .inl (by decide +kernel)
  have hephemeral : isEphemeral "/APPDATA/local/Temp" = false := by decide +kernel
  have hpath : (outdated.running "/APPDATA/local/Temp//x-ui.exe").executable =
      some ("/APPDATA/local/Temp" ++ "/" ++ "/x-ui.exe") := by decide +kernel
  have hother : (outdated.running "/APPDATA/local/Temp/_MEI1/x-ui.exe").executable =
      some ("/APPDATA/local/Temp" ++ "/" ++ "_MEI1/x-ui.exe") := by decide +kernel
  obtain ⟨base, -, hsource, hkept⟩ := kept_elsewhere_unless_direct hfolder hpath (hquery _)
  obtain ⟨other, hbase, helsewhere, -⟩ := kept_elsewhere_unless_direct hfolder hother (hquery _)
  have hneither := mt hsource.mp (not_or.mpr ⟨not_not_intro hdirect, by simp [hephemeral]⟩)
  have hexecutable : base.source = .executable := by
    cases hs : base.source with
    | executable => rfl
    | workingFolder => exact absurd (.inl hs) hneither
    | fallback => exact absurd (.inr hs) hneither
  exact ⟨hfolder, hdirect, hbelow, hquery _,
    (hkept hexecutable).2 none (by decide +kernel) hlacks, hquery _, other, hbase,
    helsewhere.mpr (.inl hbelow)⟩

end Machine

end PanelConfig
