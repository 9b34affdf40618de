import PanelConfig.Disk.Access

/-! The walk along a path as a derivation, `Leads`, one rule for each kind of name. What a walk
finds is what stands on the disk, a walk for writing finds nothing else than one for looking, and a
file that is put at a vacant place, or over another file, is found by every path that led to that
place, while all other paths lead where they led before. -/

namespace PanelConfig

/-- The spot says of its place what the disk says of it. -/
def Spot.Fits (d : Disk) : Spot → Prop
  | .folder _ => True
  | .file l => ∃ bytes, d.find? l = some (.file bytes)
  | .vacant l => d.find? l = none

/-- The spot after a file is made at `t`. -/
def Spot.afterMaking (t : Location) : Spot → Spot
  | .vacant l => if l = t then .file t else .vacant l
  | s => s

namespace Disk

/-- The name is looked up in its folder: it is no dot, no `..`, not too long, and not followed by
slashes alone where a file is to be written. -/
structure LooksUp (purpose : Purpose) (name : String) (rest : List String) : Prop where
  notDot : ¬(name = "" ∨ name = ".")
  notParent : name ≠ ".."
  notSlash : ¬(purpose = .write ∧ rest ≠ [] ∧ rest.all (· = ""))
  short : ¬maxNameBytes < name.utf8ByteSize

/-- The names lead from the folder `here` to a spot, through no more than `links` links. -/
inductive Leads (d : Disk) (purpose : Purpose) : Nat → Location → List String → Spot → Prop
  | arrive {links : Nat} {here : Location} : Leads d purpose links here [] (.folder here)
  | stay {links : Nat} {here : Location} {name : String} {rest : List String} {spot : Spot} :
      name = "" ∨ name = "." → Leads d purpose links here rest spot →
      Leads d purpose links here (name :: rest) spot
  | ascend {links : Nat} {here : Location} {rest : List String} {spot : Spot} :
      Leads d purpose links here.dropLast rest spot →
      Leads d purpose links here (".." :: rest) spot
  | enter {links : Nat} {here : Location} {name : String} {rest : List String} {spot : Spot} :
      LooksUp purpose name rest → d.find? (here ++ [name]) = some .folder →
      Leads d purpose links (here ++ [name]) rest spot →
      Leads d purpose links here (name :: rest) spot
  | follow {links : Nat} {here : Location} {name target : String} {rest : List String}
      {spot : Spot} :
      LooksUp purpose name rest → d.find? (here ++ [name]) = some (.link target) →
      Leads d purpose links (if Path.isAbsolute target then [] else here)
        (Path.names target ++ rest) spot →
      Leads d purpose (links + 1) here (name :: rest) spot
  | reach {links : Nat} {here : Location} {name : String} {bytes : List UInt8} :
      LooksUp purpose name [] → d.find? (here ++ [name]) = some (.file bytes) →
      Leads d purpose links here [name] (.file (here ++ [name]))
  | miss {links : Nat} {here : Location} {name : String} :
      LooksUp purpose name [] → d.find? (here ++ [name]) = none →
      Leads d purpose links here [name] (.vacant (here ++ [name]))

variable {d : Disk} {purpose : Purpose} {links : Nat} {here : Location} {name : String}
  {names rest : List String} {spot : Spot}
  {follow : Location → List String → Except Refusal Spot}

theorem walkWith_skip (h : name = "" ∨ name = ".") :
    d.walkWith purpose follow here (name :: rest) = d.walkWith purpose follow here rest := by
  rw [walkWith, if_pos h]

theorem walkWith_parent :
    d.walkWith purpose follow here (".." :: rest) =
      d.walkWith purpose follow here.dropLast rest := by
  rw [walkWith, if_neg (by decide), if_pos rfl]

theorem walkWith_looksUp (h : LooksUp purpose name rest) :
    d.walkWith purpose follow here (name :: rest) = match d.find? (here ++ [name]) with
      | some .folder => d.walkWith purpose follow (here ++ [name]) rest
      | some (.link target) =>
        follow (if Path.isAbsolute target then [] else here) (Path.names target ++ rest)
      | some (.file _) => if rest = [] then .ok (.file (here ++ [name])) else .error .notFolder
      | none => if rest = [] then .ok (.vacant (here ++ [name])) else .error .missing := by
  rw [walkWith, if_neg h.notDot, if_neg h.notParent, if_neg h.notSlash]
  exact if_neg h.short

/-- A walk that ends is a derivation, if the walks on from its links are. -/
theorem leads_of_walkWith
    (hf : ∀ here names spot, follow here names = .ok spot →
      ∃ k, links = k + 1 ∧ d.Leads purpose k here names spot)
    (h : d.walkWith purpose follow here names = .ok spot) :
    d.Leads purpose links here names spot := by
  fun_induction d.walkWith purpose follow here names with
  | case1 here => cases h; exact .arrive
  | case2 here name rest hn ih => exact .stay hn (ih h)
  | case3 here rest hn ih => exact .ascend (ih h)
  -- the refusals
  | case4 | case5 | case9 | case11 => cases h
  | case6 here name rest h1 h2 h3 h4 hd ih => exact .enter ⟨h1, h2, h3, h4⟩ hd (ih h)
  | case7 here name rest h1 h2 h3 h4 target hd =>
    obtain ⟨k, rfl, hk⟩ := hf _ _ _ h
    exact .follow ⟨h1, h2, h3, h4⟩ hd hk
  | case8 here name h1 h2 h4 bytes hd h3 => cases h; exact .reach ⟨h1, h2, h3, h4⟩ hd
  | case10 here name h1 h2 h4 hd h3 => cases h; exact .miss ⟨h1, h2, h3, h4⟩ hd

theorem leads_of_walk (h : d.walk purpose links here names = .ok spot) :
    d.Leads purpose links here names spot := by
  -- on the links that are left: between two links the walk recurses on its names
  induction links generalizing here names spot with
  | zero => exact leads_of_walkWith (fun _ _ _ hf => by cases hf) h
  | succ links ih => exact leads_of_walkWith (fun _ _ _ hf => ⟨links, rfl, ih hf⟩) h

/-- A walk with its links left, as a walk that goes on from a link in some way. -/
theorem walk_eq_walkWith (d : Disk) (purpose : Purpose) (links : Nat) :
    ∃ follow, d.walk purpose links = d.walkWith purpose follow := by
  cases links with
  | zero => exact ⟨_, rfl⟩
  | succ links => exact ⟨_, rfl⟩

theorem walk_skip (h : name = "" ∨ name = ".") :
    d.walk purpose links here (name :: rest) = d.walk purpose links here rest := by
  obtain ⟨follow, hw⟩ := walk_eq_walkWith d purpose links
  rw [hw, walkWith_skip h]

theorem walk_parent :
    d.walk purpose links here (".." :: rest) = d.walk purpose links here.dropLast rest := by
  obtain ⟨follow, hw⟩ := walk_eq_walkWith d purpose links
  rw [hw, walkWith_parent]

theorem walk_enter (h : LooksUp purpose name rest) (hd : d.find? (here ++ [name]) = some .folder) :
    d.walk purpose links here (name :: rest) = d.walk purpose links (here ++ [name]) rest := by
  obtain ⟨follow, hw⟩ := walk_eq_walkWith d purpose links
  simp only [hw, walkWith_looksUp h, hd]

theorem walk_follow {target : String} (h : LooksUp purpose name rest)
    (hd : d.find? (here ++ [name]) = some (.link target)) :
    d.walk purpose (links + 1) here (name :: rest) =
      d.walk purpose links (if Path.isAbsolute target then [] else here)
        (Path.names target ++ rest) := by
  rw [walk]
  simp only [walkWith_looksUp h, hd]

theorem Leads.walk_eq (h : d.Leads purpose links here names spot) :
    d.walk purpose links here names = .ok spot := by
  induction h with
  | @arrive links here =>
    obtain ⟨follow, hw⟩ := walk_eq_walkWith d purpose links
    rw [hw, walkWith]
  | stay hn _ ih => rw [walk_skip hn, ih]
  | ascend _ ih => rw [walk_parent, ih]
  | enter hn hd _ ih => rw [walk_enter hn hd, ih]
  | follow hn hd _ ih => rw [walk_follow hn hd, ih]
  | @reach links _ _ _ hn hd =>
    obtain ⟨follow, hw⟩ := walk_eq_walkWith d purpose links
    simp only [hw, walkWith_looksUp hn, hd, if_true]
  | @miss links _ _ hn hd =>
    obtain ⟨follow, hw⟩ := walk_eq_walkWith d purpose links
    simp only [hw, walkWith_looksUp hn, hd, if_true]

/-- The walks that end are the derivations. -/
theorem walk_eq_ok_iff :
    d.walk purpose links here names = .ok spot ↔ d.Leads purpose links here names spot :=
  ⟨leads_of_walk, Leads.walk_eq⟩

theorem Leads.fits (h : d.Leads purpose links here names spot) : spot.Fits d := by
  induction h with
  | arrive => trivial
  | stay _ _ ih | ascend _ ih | enter _ _ _ ih | follow _ _ _ ih => exact ih
  | reach _ hd => exact ⟨_, hd⟩
  | miss _ hd => exact hd

theorem LooksUp.look (h : LooksUp purpose name rest) : LooksUp .look name rest :=
  ⟨h.notDot, h.notParent, fun hw => absurd hw.1 (by decide), h.short⟩

/-- What is found for writing is found for looking. -/
theorem Leads.look (h : d.Leads purpose links here names spot) :
    d.Leads .look links here names spot := by
  induction h with
  | arrive => exact .arrive
  | stay hn _ ih => exact .stay hn ih
  | ascend _ ih => exact .ascend ih
  | enter hn hd _ ih => exact .enter hn.look hd ih
  | follow hn hd _ ih => exact .follow hn.look hd ih
  | reach hn hd => exact .reach hn.look hd
  | miss hn hd => exact .miss hn.look hd

/-- A walk that finds a vacant place has a name for it: the names do not end in a slash. -/
theorem Leads.getLast?_ne {t : Location} (h : d.Leads purpose links here names (.vacant t)) :
    names.getLast? ≠ some "" := by
  generalize hs : Spot.vacant t = spot at h
  induction h with
  | arrive => simp
  | @stay _ _ name rest _ _ h ih =>
    cases rest with
    | nil => cases h; cases hs
    | cons next rest => rw [List.getLast?_cons_cons]; exact ih hs
  | @ascend _ _ rest _ h ih =>
    cases rest with
    | nil => simp
    | cons next rest => rw [List.getLast?_cons_cons]; exact ih hs
  | @enter _ _ name rest _ hn _ h ih =>
    cases rest with
    | nil => cases h; cases hs
    | cons next rest => rw [List.getLast?_cons_cons]; exact ih hs
  | @follow _ _ name target rest _ hn _ _ ih =>
    cases rest with
    | nil => simpa using fun he => hn.notDot (.inl he)
    | cons next rest =>
      rw [List.getLast?_cons_cons]
      simpa using ih hs
  | reach => cases hs
  | miss hn _ => simpa using fun he => hn.notDot (.inl he)

theorem LooksUp.write (h : LooksUp .look name rest) (hr : rest.getLast? ≠ some "") :
    LooksUp .write name rest := by
  refine ⟨h.notDot, h.notParent, ?_, h.short⟩
  rintro ⟨-, hne, hall⟩
  have hlast : rest.getLast hne = "" := by
    simpa using List.all_eq_true.mp hall _ (List.getLast_mem hne)
  exact hr (by rw [List.getLast?_eq_some_getLast hne, hlast])

/-- A vacant place that is found for looking is found for writing. -/
theorem Leads.write {t : Location} (h : d.Leads .look links here names (.vacant t)) :
    d.Leads .write links here names (.vacant t) := by
  generalize hs : Spot.vacant t = spot at h ⊢
  induction h with
  | arrive => cases hs
  | stay hn _ ih => exact .stay hn (ih hs)
  | ascend _ ih => exact .ascend (ih hs)
  | enter hn hd h ih =>
    subst hs
    exact .enter (hn.write h.getLast?_ne) hd (ih rfl)
  | @follow _ _ name target rest _ hn hd h ih =>
    subst hs
    have hlast : rest.getLast? ≠ some "" := by
      intro he
      apply h.getLast?_ne
      rw [List.getLast?_append, he]
      rfl
    exact .follow (hn.write hlast) hd (ih rfl)
  | reach => cases hs
  | miss hn hd => exact .miss (hn.write (by simp)) hd

/-- Neither a folder nor a link stands at the place. -/
def MayHoldFile (d : Disk) (t : Location) : Prop :=
  ∀ e, d.find? t = some e → ∃ bytes, e = .file bytes

theorem mayHoldFile_of_vacant {t : Location} (h : d.find? t = none) : d.MayHoldFile t := by
  intro e he
  rw [h] at he
  cases he

theorem mayHoldFile_of_file {t : Location} {bytes : List UInt8}
    (h : d.find? t = some (.file bytes)) : d.MayHoldFile t := by
  intro e he
  rw [h] at he
  exact ⟨bytes, (Option.some.inj he).symm⟩

/-- What is no file still stands where it did when a file is put where one may stand. -/
theorem MayHoldFile.find?_put {l t : Location} {e : Entry} (ht : d.MayHoldFile t)
    (hl : d.find? l = some e) (he : ∀ bytes, e ≠ .file bytes) (new : Entry) :
    (d.put t new).find? l = some e := by
  have hne : l ≠ t := by
    rintro rfl
    obtain ⟨bytes, hfile⟩ := ht e hl
    exact he bytes hfile
  rw [find?_put_ne hne, hl]

/-- After a file is put where one may stand, paths that led there lead to the file, and all others
lead where they led before: a walk passes through nothing but folders and links, and neither stands
at that place. -/
theorem Leads.put {t : Location} (ht : d.MayHoldFile t) (bytes : List UInt8)
    (h : d.Leads purpose links here names spot) :
    (d.put t (.file bytes)).Leads purpose links here names (spot.afterMaking t) := by
  induction h with
  | arrive => exact .arrive
  | stay hn _ ih => exact .stay hn ih
  | ascend _ ih => exact .ascend ih
  | enter hn hd _ ih => exact .enter hn (ht.find?_put hd (by simp) _) ih
  | follow hn hd _ ih => exact .follow hn (ht.find?_put hd (by simp) _) ih
  | @reach links here name old hn hd =>
    by_cases hl : here ++ [name] = t
    · subst hl
      exact .reach hn (Disk.find?_put (by simp) d _)
    · exact .reach hn (by rw [find?_put_ne hl, hd])
  | @miss links here name hn hd =>
    by_cases hl : here ++ [name] = t
    · subst hl
      rw [Spot.afterMaking, if_pos rfl]
      exact .reach hn (Disk.find?_put (by simp) d _)
    · rw [Spot.afterMaking, if_neg hl]
      exact .miss hn (by rw [find?_put_ne hl, hd])

/-- The folder at which a path starts. -/
def start (d : Disk) (path : String) : Location :=
  if Path.isAbsolute path then [] else d.workingFolder

variable {path : String}

theorem resolve_eq_ok_iff :
    d.resolve purpose path = .ok spot ↔
      path.utf8ByteSize < pathBytesLimit ∧ path ≠ "" ∧
        d.Leads purpose maxLinks (d.start path) (Path.names path) spot := by
  rw [resolve, start]
  split
  · next h => simp [Nat.not_lt.mpr h]
  · next h =>
    split
    · next he => simp [he]
    · next he => simp [Nat.not_le.mp h, he, walk_eq_ok_iff]

theorem fits_of_resolve (h : d.resolve purpose path = .ok spot) : spot.Fits d :=
  (resolve_eq_ok_iff.mp h).2.2.fits

theorem resolve_look (h : d.resolve purpose path = .ok spot) :
    d.resolve .look path = .ok spot := by
  obtain ⟨hs, he, hl⟩ := resolve_eq_ok_iff.mp h
  exact resolve_eq_ok_iff.mpr ⟨hs, he, hl.look⟩

theorem resolve_put {t : Location} (ht : d.MayHoldFile t) (bytes : List UInt8)
    (h : d.resolve purpose path = .ok spot) :
    (d.put t (.file bytes)).resolve purpose path = .ok (spot.afterMaking t) := by
  obtain ⟨hs, he, hl⟩ := resolve_eq_ok_iff.mp h
  exact resolve_eq_ok_iff.mpr ⟨hs, he, hl.put ht bytes⟩

end Disk

end PanelConfig
