import PanelConfig.BaseFolder

/-! Paths in parts: what stands before the slashes that end the folder, these slashes, and the last
name. Main statement: whatever slashes a path has, its components are those of the folder that holds
what it names, and then those of its last name. -/

namespace PanelConfig

namespace Text

variable {p : Char → Bool} {front back : List Char}

/-- `p` holds of the whole back, and not of the last character of the front. -/
structure Trails (p : Char → Bool) (front back : List Char) : Prop where
  back : ∀ c ∈ back, p c = true
  front : ∀ c, front.getLast? = some c → p c = false

theorem exists_trails (p : Char → Bool) (cs : List Char) :
    ∃ front back, cs = front ++ back ∧ Trails p front back := by
  induction cs with
  | nil => exact ⟨[], [], rfl, nofun, nofun⟩
  | cons c cs ih =>
    obtain ⟨front, back, rfl, hback, hfront⟩ := ih
    cases front with
    | cons d front =>
      refine ⟨c :: d :: front, back, rfl, hback, fun e he => hfront e ?_⟩
      rwa [List.getLast?_cons_cons] at he
    | nil =>
      by_cases hc : p c = true
      · exact ⟨[], c :: back, rfl, List.forall_mem_cons.mpr ⟨hc, hback⟩, nofun⟩
      · refine ⟨[c], back, rfl, hback, fun e he => ?_⟩
        cases he
        exact Bool.eq_false_iff.mpr hc

theorem Trails.dropWhile_reverse (h : Trails p front back) :
    (front ++ back).reverse.dropWhile p = front.reverse := by
  rw [List.reverse_append,
    List.dropWhile_append_of_pos fun c hc => h.back c (List.mem_reverse.mp hc)]
  cases hfront : front.reverse with
  | nil => rfl
  | cons c cs =>
    have hlast : front.getLast? = some c := by rw [← List.head?_reverse, hfront, List.head?_cons]
    rw [List.dropWhile_cons_of_neg (Bool.eq_false_iff.mp (h.front c hlast))]

theorem Trails.takeWhile_reverse (h : Trails p front back) :
    (front ++ back).reverse.takeWhile p = back.reverse := by
  have hsplit := List.takeWhile_append_dropWhile (p := p) (l := (front ++ back).reverse)
  rw [h.dropWhile_reverse, List.reverse_append] at hsplit
  rw [List.reverse_append]
  exact List.append_cancel_right hsplit

end Text

namespace Path

open Text

/-- The parts of a path: the front does not end with a slash, the slashes after it are nothing else,
and the name holds none. Only an empty front has no slashes after it. -/
structure Parted (path : String) (front slashes name : List Char) : Prop where
  eq : path.toList = front ++ slashes ++ name
  slash : ∀ c ∈ slashes, c = '/'
  notMem : '/' ∉ name
  notLast : front.getLast? ≠ some '/'
  apart : front ≠ [] → slashes ≠ []

theorem exists_parted (path : String) : ∃ front slashes name, Parted path front slashes name := by
  obtain ⟨head, name, hpath, hname, hhead⟩ := exists_trails (· ≠ '/') path.toList
  obtain ⟨front, slashes, rfl, hslashes, hfront⟩ := exists_trails (· = '/') head
  have hlast : ∀ c, front.getLast? = some c → c ≠ '/' :=
    fun c hc => of_decide_eq_false (hfront c hc)
  refine ⟨front, slashes, name, hpath, fun c hc => of_decide_eq_true (hslashes c hc),
    fun hc => of_decide_eq_true (hname '/' hc) rfl, fun hc => hlast '/' hc rfl, ?_⟩
  rintro hne rfl
  obtain ⟨c, hc⟩ := Option.isSome_iff_exists.mp (List.getLast?_isSome.mpr hne)
  rw [List.append_nil] at hhead
  exact of_decide_eq_false (hhead c hc) (hlast c hc)

namespace Parted

variable {path : String} {front slashes name : List Char}

theorem trails_name (h : Parted path front slashes name) :
    Trails (· ≠ '/') (front ++ slashes) name := by
  constructor
  · intro c hc
    rw [decide_eq_true_iff]
    rintro rfl
    exact h.notMem hc
  · intro c hc
    rw [decide_eq_false_iff_not, Decidable.not_not]
    cases hslashes : slashes.getLast? with
    | none =>
      rw [List.getLast?_eq_none_iff] at hslashes
      have hfront : front = [] := Decidable.not_not.mp fun hne => h.apart hne hslashes
      rw [hfront, hslashes] at hc
      cases hc
    | some d =>
      rw [List.getLast?_append, hslashes] at hc
      cases hc
      exact h.slash c (List.mem_of_getLast? hslashes)

theorem trails_slashes (h : Parted path front slashes name) :
    Trails (· = '/') front slashes := by
  constructor
  · exact fun c hc => decide_eq_true (h.slash c hc)
  · intro c hc
    rw [decide_eq_false_iff_not]
    rintro rfl
    exact h.notLast hc

theorem folder_eq (h : Parted path front slashes name) :
    folder path = String.ofList (if front = [] then slashes else front) := by
  have hhead : throughLastSlash path.toList = front ++ slashes := by
    rw [throughLastSlash, h.eq, h.trails_name.dropWhile_reverse, List.reverse_reverse]
  rw [folder, hhead, h.trails_slashes.dropWhile_reverse, List.reverse_reverse]
  by_cases hfront : front = []
  · rw [if_pos hfront, if_pos hfront, hfront, List.nil_append]
  · rw [if_neg hfront, if_neg hfront]

theorem lastName_eq (h : Parted path front slashes name) : lastName path = String.ofList name := by
  rw [lastName, h.eq, h.trails_name.takeWhile_reverse, List.reverse_reverse]

end Parted

/-! Components. -/

theorem components_append_cons (as bs : List Char) : components (String.ofList (as ++ '/' :: bs)) =
    components (String.ofList as) ++ components (String.ofList bs) := by
  simp only [components, names, String.toList_ofList, List.splitOn_append_cons_self,
    List.map_append, List.filter_append]

theorem components_slashes_append {slashes : List Char} (h : ∀ c ∈ slashes, c = '/')
    (cs : List Char) :
    components (String.ofList (slashes ++ cs)) = components (String.ofList cs) := by
  induction slashes with
  | nil => rfl
  | cons c slashes ih =>
    obtain rfl := h c List.mem_cons_self
    have hsplit := components_append_cons [] (slashes ++ cs)
    rw [List.nil_append] at hsplit
    rw [List.cons_append, hsplit, ih fun d hd => h d (List.mem_cons_of_mem _ hd)]
    rfl

theorem components_append_slash (a b : String) :
    components (a ++ "/" ++ b) = components a ++ components b := by
  have hlist : a ++ "/" ++ b = String.ofList (a.toList ++ '/' :: b.toList) := by
    rw [← String.toList_inj]
    simp
  rw [hlist, components_append_cons, String.ofList_toList, String.ofList_toList]

end Path

end PanelConfig
