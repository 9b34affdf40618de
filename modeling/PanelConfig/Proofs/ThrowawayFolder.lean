import Mathlib.Data.List.Forall2
import PanelConfig.Proofs.Text.Search

/-! Which folders count as throwaway. The marks are searched for in the full lower case of a path
with slashes for its backslashes. Main statement: such a folder is told by the names of its path
alone, as they stand between slashes and backslashes, and by no character but ASCII ones. -/

namespace PanelConfig.BaseFolder

open Text

/-- A slash or a backslash. -/
def isSlash (c : Char) : Bool := c = '/' || c = '\\'

/-- The names of a path between its slashes and backslashes. Names may be empty. -/
def namesBetween (path : String) : List String := (path.toList.splitOnP isSlash).map String.ofList

/-- A name begins with a word, up to the case of ASCII letters. -/
def OpensWith (w name : String) : Prop := ∃ front rest, name = front ++ rest ∧ SameLetters front w

/-- A name but the first is that of a folder in which builds are made. -/
def HasBuildFolder (names : List String) : Prop :=
  ∃ i, 1 ≤ i ∧ ∃ name, names[i]? = some name ∧ OpensWith "go-build" name

/-- Three names in a row, with a name before and a name after them, lead to the folder for temporary
files. -/
def HasTemporaryFolder (names : List String) : Prop :=
  ∃ i, 1 ≤ i ∧ i + 3 < names.length ∧ ∃ a l t, names[i]? = some a ∧ names[i + 1]? = some l ∧
    names[i + 2]? = some t ∧ SameLetters a "appdata" ∧ SameLetters l "local" ∧ SameLetters t "temp"

/-- The character with a slash for a backslash and a small letter for an ASCII capital. -/
def leveled (c : Char) : Char := if c = '\\' then '/' else c.toLower

/-- The characters are alike in a path: they differ in the case of an ASCII letter, or in the way in
which the slash leans, if at all. -/
def AlikeInPath (c d : Char) : Prop :=
  c.toLower = d.toLower ∨ isSlash c = true ∧ isSlash d = true

instance (c d : Char) : Decidable (AlikeInPath c d) :=
  inferInstanceAs (Decidable (c.toLower = d.toLower ∨ isSlash c = true ∧ isSlash d = true))

theorem eq_of_toLower_eq {c x : Char} (h : c.toLower = x) (hx : x.toNat < 0x61 ∨ 0x7A < x.toNat) :
    c = x := by
  have hall : ∀ n < 0x80, (Char.ofNat n).toLower = Char.ofNat n ∨
      0x61 ≤ (Char.ofNat n).toLower.toNat ∧ (Char.ofNat n).toLower.toNat ≤ 0x7A := by
    decide +kernel
  rcases Nat.lt_or_ge c.toNat 0x80 with hc | hc
  · rcases Char.ofNat_toNat c ▸ hall c.toNat hc with hself | hletter
    · rw [← h, hself]
    · rw [h] at hletter
      omega
  · rw [← h, toLower_of_not_capital (by omega)]

theorem leveled_eq_slash_iff {c : Char} : leveled c = '/' ↔ isSlash c = true := by
  rw [leveled, isSlash, Bool.or_eq_true, decide_eq_true_iff, decide_eq_true_iff]
  split
  · next h => simp [h]
  · next h =>
    rw [or_iff_left h]
    refine ⟨fun hc => eq_of_toLower_eq hc (by decide), ?_⟩
    rintro rfl
    rfl

theorem leveled_of_not_isSlash {c : Char} (h : isSlash c = false) : leveled c = c.toLower := by
  rw [leveled, if_neg]
  rintro rfl
  cases h

theorem leveled_of_not_ascii {c : Char} (h : 0x80 ≤ c.toNat) : leveled c = c := by
  rw [leveled, if_neg, toLower_of_not_capital (by omega)]
  rintro rfl
  exact absurd h (by decide)

theorem AlikeInPath.leveled_eq {c d : Char} (h : AlikeInPath c d) : leveled c = leveled d := by
  rcases h with h | ⟨hc, hd⟩
  · by_cases hc : c = '\\'
    · subst hc
      rw [eq_of_toLower_eq h.symm (by decide)]
      rfl
    · have hd : d ≠ '\\' := by
        rintro rfl
        exact hc (eq_of_toLower_eq h (by decide))
      rw [leveled, leveled, if_neg hc, if_neg hd, h]
  · rw [leveled_eq_slash_iff.mpr hc, leveled_eq_slash_iff.mpr hd]

theorem isSearchable_of_mem :
    ∀ mark ∈ ephemeralMarks, IsSearchable mark.toList ∧ mark.toList ≠ [] := by
  decide +kernel

/-- The marks are found in the path with its characters leveled. -/
theorem isEphemeral_iff_exists_mark {path : String} : isEphemeral path = true ↔
    ∃ mark ∈ ephemeralMarks, mark.toList <:+: path.toList.map leveled := by
  have hlevel : Char.toLower ∘ (fun c => if c = '\\' then '/' else c) = leveled := by
    funext c
    simp only [Function.comp_apply, leveled]
    split
    · rfl
    · rfl
  rw [isEphemeral, List.any_eq_true]
  refine exists_congr fun mark => and_congr_right fun hmark => ?_
  obtain ⟨hsearchable, hne⟩ := isSearchable_of_mem mark hmark
  rw [occursIn_iff, lower, String.toList_ofList, hsearchable.infix_lowerAfter_iff hne, withSlashes,
    String.toList_ofList, List.map_map, hlevel]

/-- The pieces of a leveled path are the names of the path in small letters. -/
theorem splitOn_map_leveled (cs : List Char) :
    (cs.map leveled).splitOn '/' = (cs.splitOnP isSlash).map (List.map Char.toLower) := by
  induction cs with
  | nil => rfl
  | cons c cs ih =>
    have hslash : (leveled c == '/') = isSlash c := by
      rw [Bool.eq_iff_iff, beq_iff_eq, leveled_eq_slash_iff]
    rw [List.map_cons, List.splitOn_cons_eq_if_modifyHead, List.splitOnP_cons_eq_if_modifyHead, ih,
      hslash]
    cases hc : isSlash c with
    | true => rw [if_pos rfl, if_pos rfl, List.map_cons, List.map_nil]
    | false =>
      rw [if_neg Bool.false_ne_true, if_neg Bool.false_ne_true, leveled_of_not_isSlash hc]
      cases h : cs.splitOnP isSlash with
      | nil => exact absurd h (List.splitOnP_ne_nil _ _)
      | cons p ps => rfl

/-! The names that the marks stand for. -/

theorem sameLetters_ofList_iff {w : String} (hw : w.toList.map Char.toLower = w.toList)
    (cs : List Char) : SameLetters (String.ofList cs) w ↔ cs.map Char.toLower = w.toList := by
  rw [SameLetters, String.toList_ofList, hw]

theorem opensWith_ofList_iff {w : String} (hw : w.toList.map Char.toLower = w.toList)
    (cs : List Char) : OpensWith w (String.ofList cs) ↔ w.toList <+: cs.map Char.toLower := by
  rw [List.prefix_map_iff]
  constructor
  · rintro ⟨front, rest, hcs, hfront⟩
    have hlist := congrArg String.toList hcs
    rw [String.toList_ofList, String.toList_append] at hlist
    rw [SameLetters, hw] at hfront
    exact ⟨front.toList, ⟨rest.toList, hlist.symm⟩, hfront.symm⟩
  · rintro ⟨front, ⟨rest, rfl⟩, hfront⟩
    exact ⟨String.ofList front, String.ofList rest, String.ofList_append,
      (sameLetters_ofList_iff hw front).mpr hfront.symm⟩

theorem drop_eq_cons_iff {α : Type} {l t : List α} {a : α} {i : Nat} :
    l.drop i = a :: t ↔ l[i]? = some a ∧ l.drop (i + 1) = t := by
  rw [← List.tail_drop, ← List.head?_drop]
  cases l.drop i with
  | nil => simp
  | cons b s => simp

theorem hasBuildFolder_iff (path : String) : HasBuildFolder (namesBetween path) ↔
    "/go-build".toList <:+: path.toList.map leveled := by
  have hmark : "/go-build".toList = '/' :: ['/'].intercalate ([] ++ ["go-build".toList]) := by
    decide
  have hw : "go-build".toList.map Char.toLower = "go-build".toList := by decide
  rw [hmark, intercalate_infix_iff (by simp) (by decide), splitOn_map_leveled, HasBuildFolder,
    namesBetween]
  refine exists_congr fun i => and_congr_right fun _ => ?_
  simp only [List.nil_append, drop_eq_cons_iff, List.getElem?_map, Option.map_eq_some_iff]
  constructor
  · rintro ⟨name, ⟨cs, hcs, rfl⟩, hopens⟩
    exact ⟨_, _, ⟨⟨cs, hcs, rfl⟩, rfl⟩, (opensWith_ofList_iff hw cs).mp hopens⟩
  · rintro ⟨q, qs, ⟨⟨cs, hcs, rfl⟩, -⟩, hprefix⟩
    exact ⟨_, ⟨cs, hcs, rfl⟩, (opensWith_ofList_iff hw cs).mpr hprefix⟩

theorem hasTemporaryFolder_iff (path : String) : HasTemporaryFolder (namesBetween path) ↔
    "/appdata/local/temp/".toList <:+: path.toList.map leveled := by
  have hmark : "/appdata/local/temp/".toList = '/' :: ['/'].intercalate
      (["appdata".toList, "local".toList, "temp".toList] ++ [[]]) := by decide
  have ha := sameLetters_ofList_iff (w := "appdata") (by decide)
  have hl := sameLetters_ofList_iff (w := "local") (by decide)
  have ht := sameLetters_ofList_iff (w := "temp") (by decide)
  rw [hmark, intercalate_infix_iff (by decide) (by simp), splitOn_map_leveled, HasTemporaryFolder,
    namesBetween]
  refine exists_congr fun i => and_congr_right fun _ => ?_
  simp only [List.cons_append, List.nil_append, drop_eq_cons_iff, List.getElem?_map,
    Option.map_eq_some_iff, List.nil_prefix, and_true, List.length_map]
  constructor
  · rintro ⟨hlt, _, _, _, ⟨a, hia, rfl⟩, ⟨l, hil, rfl⟩, ⟨t, hit, rfl⟩, hsa, hsl, hst⟩
    exact ⟨_, _, ⟨a, hia, (ha a).mp hsa⟩, ⟨l, hil, (hl l).mp hsl⟩, ⟨t, hit, (ht t).mp hst⟩,
      ⟨_, List.getElem?_eq_getElem hlt, rfl⟩, rfl⟩
  · rintro ⟨_, _, ⟨a, hia, hsa⟩, ⟨l, hil, hsl⟩, ⟨t, hit, hst⟩, ⟨q, hiq, -⟩, -⟩
    exact ⟨(List.getElem?_eq_some_iff.mp hiq).1, _, _, _, ⟨a, hia, rfl⟩, ⟨l, hil, rfl⟩,
      ⟨t, hit, rfl⟩, (ha a).mpr hsa, (hl l).mpr hsl, (ht t).mpr hst⟩

/-- A path is throwaway for the names in it. -/
theorem isEphemeral_iff {path : String} : isEphemeral path = true ↔
    HasBuildFolder (namesBetween path) ∨ HasTemporaryFolder (namesBetween path) := by
  rw [isEphemeral_iff_exists_mark, hasBuildFolder_iff, hasTemporaryFolder_iff, or_comm]
  simp only [ephemeralMarks, List.mem_cons, List.not_mem_nil, or_false, exists_eq_or_imp,
    exists_eq_left]

theorem map_leveled_congr {cs ds : List Char} (h : List.Forall₂ AlikeInPath cs ds) :
    cs.map leveled = ds.map leveled := by
  induction h with
  | nil => rfl
  | cons hc _ ih => rw [List.map_cons, List.map_cons, hc.leveled_eq, ih]

/-- Characters that are alike make no difference. -/
theorem isEphemeral_congr {p q : String} (h : List.Forall₂ AlikeInPath p.toList q.toList) :
    isEphemeral p = isEphemeral q := by
  rw [Bool.eq_iff_iff, isEphemeral_iff_exists_mark, isEphemeral_iff_exists_mark,
    map_leveled_congr h]

/-- The marks stand on one side of a character that is not ASCII. -/
theorem isEphemeral_append_iff {c : Char} (h : 0x80 ≤ c.toNat) (front back : String) :
    isEphemeral (front ++ String.singleton c ++ back) = true ↔
      isEphemeral front = true ∨ isEphemeral back = true := by
  have hmark : ∀ mark ∈ ephemeralMarks, c ∉ mark.toList := by
    intro mark hmem hc
    have := ((isSearchable_of_mem mark hmem).1.plain c hc).1
    omega
  rw [isEphemeral_iff_exists_mark, isEphemeral_iff_exists_mark, isEphemeral_iff_exists_mark,
    ← exists_or]
  refine exists_congr fun mark => ?_
  rw [← and_or_left]
  refine and_congr_right fun hmem => ?_
  have hlist : (front ++ String.singleton c ++ back).toList =
      front.toList ++ c :: back.toList := by simp
  rw [hlist, List.map_append, List.map_cons, leveled_of_not_ascii h,
    infix_append_cons_iff (hmark mark hmem)]

/-- A folder is throwaway exactly where a name of its path, but not the first, begins with that of a
folder for builds, or where three names in a row, with one before and one after them, are those that
lead to the folder for temporary files. Which way a slash leans makes no difference, nor does the
case of ASCII letters, and no other character takes part: the path is throwaway for what stands
before such a character or for what stands after it. -/
theorem isEphemeral_iff_names (path : String) :
    (isEphemeral path = true ↔
      HasBuildFolder (namesBetween path) ∨ HasTemporaryFolder (namesBetween path)) ∧
    (∀ other : String, List.Forall₂ AlikeInPath path.toList other.toList →
      isEphemeral other = isEphemeral path) ∧
    ∀ (front back : String) (c : Char), path = front ++ String.singleton c ++ back →
      0x80 ≤ c.toNat →
      (isEphemeral path = true ↔ isEphemeral front = true ∨ isEphemeral back = true) := by
  refine ⟨isEphemeral_iff, fun other h => (isEphemeral_congr h).symm, ?_⟩
  rintro front back c rfl hc
  exact isEphemeral_append_iff hc front back

/-- A path to the folder for temporary files whose slashes lean both ways. -/
def leaningPath : String := "C:\\M\u00e9\\AppData/LOCAL\\Temp\\x"

/-- The path is throwaway however it is written, but the capital I with a dot is no i, although its
lower case begins with one. -/
theorem isEphemeral_iff_names_leaning :
    HasTemporaryFolder (namesBetween leaningPath) ∧
      isEphemeral leaningPath = true ∧
      List.Forall₂ AlikeInPath leaningPath.toList
        "c:/M\u00e9/appdata\\local/temp/X".toList ∧
      isEphemeral "c:/M\u00e9/appdata\\local/temp/X" = true ∧
      isEphemeral "/go-bu" = false ∧ isEphemeral "ld" = false ∧
      isEphemeral "/go-bu\u0130ld" = false := by
  have hnames : namesBetween leaningPath = ["C:", "M\u00e9", "AppData", "LOCAL", "Temp", "x"] := by
    decide +kernel
  have htemporary : HasTemporaryFolder (namesBetween leaningPath) := by
    rw [hnames]
    exact ⟨2, by decide, by decide, _, _, _, rfl, rfl, rfl, by decide, by decide, by decide⟩
  have hall : (leaningPath.toList.zip
      "c:/M\u00e9/appdata\\local/temp/X".toList).all
        (fun x => decide (AlikeInPath x.1 x.2)) = true := by
    decide +kernel
  have halike : List.Forall₂ AlikeInPath leaningPath.toList
      "c:/M\u00e9/appdata\\local/temp/X".toList :=
    List.forall₂_iff_zip.mpr
      ⟨by decide +kernel, fun hx => of_decide_eq_true (List.all_eq_true.mp hall _ hx)⟩
  have hfront : isEphemeral "/go-bu" = false := by decide +kernel
  have hback : isEphemeral "ld" = false := by decide +kernel
  have hdotted : "/go-bu\u0130ld" = "/go-bu" ++ String.singleton '\u0130' ++ "ld" := by
    decide +kernel
  obtain ⟨hiff, hcongr, -⟩ := isEphemeral_iff_names leaningPath
  obtain ⟨-, -, happend⟩ := isEphemeral_iff_names "/go-bu\u0130ld"
  have htrue := hiff.mpr (.inr htemporary)
  refine ⟨htemporary, htrue, halike, (hcongr _ halike).trans htrue, hfront, hback, ?_⟩
  rw [Bool.eq_false_iff, ne_eq, happend _ _ _ hdotted (by decide), hfront, hback]
  decide

end PanelConfig.BaseFolder
