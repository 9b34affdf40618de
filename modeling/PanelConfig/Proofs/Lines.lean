import PanelConfig.Proofs.CommandLine
import PanelConfig.Proofs.Migration
import PanelConfig.Value.Leaf

/-! The lines of a report lose nothing. Where no key holds a dot or a colon, every leaf has one
line, and is read back from it, whatever its text. So the lines of two reports are the same if and
only if their leaves are, and what `show` prints is read back as the report on the configuration. -/

namespace PanelConfig

open Text

/-- The key can be told from what stands around it in a line. -/
def IsPlainKey (key : String) : Prop := '.' ∉ key.toList ∧ ':' ∉ key.toList

instance (key : String) : Decidable (IsPlainKey key) := inferInstanceAs (Decidable (_ ∧ _))

namespace Leaf

variable {l : Leaf}

/-- The keys that lead to the leaf. -/
def keys (l : Leaf) : List String := l.holder?.toList ++ [l.key]

/-- The keys that lead to the leaf, with a dot between them. -/
def place (l : Leaf) : String :=
  match l.holder? with
  | none => l.key
  | some holder => holder ++ "." ++ l.key

def line (l : Leaf) : String := l.place ++ ": " ++ l.text

/-- A character other than the dot is in the place of a leaf only if it is in one of the keys. -/
theorem notMem_place {c : Char} (hc : c ≠ '.') (hkeys : ∀ key ∈ l.keys, c ∉ key.toList) :
    c ∉ l.place.toList := by
  obtain ⟨holder?, key, text⟩ := l
  cases holder? with
  | none => exact hkeys key List.mem_cons_self
  | some holder =>
    have hholder := hkeys holder List.mem_cons_self
    have hkey := hkeys key (List.mem_cons_of_mem _ List.mem_cons_self)
    simp [place, hholder, hkey, hc]

theorem notMem_line {c : Char} (hc : c ∉ ['.', ':', ' ']) (hkeys : ∀ key ∈ l.keys, c ∉ key.toList)
    (htext : c ∉ l.text.toList) : c ∉ l.line.toList := by
  simp only [List.mem_cons, List.not_mem_nil, or_false, not_or] at hc
  obtain ⟨hdot, hcolon, hspace⟩ := hc
  have hplace := notMem_place hdot hkeys
  simp [line, hplace, htext, hcolon, hspace]

theorem ofLine?_line (h : ∀ key ∈ l.keys, IsPlainKey key) : ofLine? l.line = some l := by
  have hplace : ':' ∉ l.place.toList := notMem_place (by decide) fun key hkey => (h key hkey).2
  have hcut := cutAt?_append_mark hplace [' '] l.text.toList
  have hmark : ": ".toList = [':', ' '] := rfl
  have hchars : l.line.toList = l.place.toList ++ ':' :: ([' '] ++ l.text.toList) := by
    simp [line]
  rw [ofLine?, hmark, hchars, hcut, Option.map_some]
  obtain ⟨holder?, key, text⟩ := l
  cases holder? with
  | none =>
    obtain ⟨hdot, -⟩ := h key List.mem_cons_self
    simp only [place, cutAt?_of_notMem hdot, String.ofList_toList]
  | some holder =>
    obtain ⟨hdot, -⟩ := h holder List.mem_cons_self
    have hkeys : (place ⟨some holder, key, text⟩).toList = holder.toList ++ '.' :: key.toList := by
      simp [place]
    simp only [hkeys, cutAt?_append hdot, String.ofList_toList]

end Leaf

namespace Value

variable {entries : List (String × Value)}

/-- The keys of a mapping; none if the value is something else. -/
def innerKeys : Value → List String
  | .mapping entries => entries.map Prod.fst
  | _ => []

/-- The keys of the entries, and of the mappings among them. -/
def keys (entries : List (String × Value)) : List String :=
  entries.flatMap fun e => e.1 :: e.2.innerKeys

/-- How many lines entries have: one for each entry of a mapping among them, and one for each that
is not a mapping. -/
def lineCount : List (String × Value) → Nat
  | [] => 0
  | (_, .mapping inner) :: entries => inner.length + lineCount entries
  | _ :: entries => 1 + lineCount entries

theorem entryLines_eq (key : String) (v : Value) :
    entryLines key v = (Leaf.ofEntry key v).map Leaf.line := by
  cases v with
  | mapping entries =>
    rw [entryLines, Leaf.ofEntry, List.map_map]
    rfl
  | _ => rfl

/-- The lines are those of the leaves, one for each and in their order. -/
theorem lines_eq (entries : List (String × Value)) :
    lines entries = (Leaf.ofEntries entries).map Leaf.line := by
  rw [lines, Leaf.ofEntries, List.map_flatMap]
  congr 1
  funext e
  exact entryLines_eq e.1 e.2

theorem length_lines (entries : List (String × Value)) :
    (lines entries).length = lineCount entries := by
  induction entries with
  | nil => rfl
  | cons e entries ih =>
    obtain ⟨key, v⟩ := e
    have hlines : lines ((key, v) :: entries) = entryLines key v ++ lines entries := rfl
    rw [hlines, List.length_append, ih]
    cases v with
    | mapping inner => rw [entryLines, List.length_map, lineCount]
    | _ => rfl

/-- The keys that lead to a leaf are among those of the report. -/
theorem keys_subset {l : Leaf} (h : l ∈ Leaf.ofEntries entries) : l.keys ⊆ keys entries := by
  obtain ⟨⟨key, v⟩, he, hl⟩ := List.mem_flatMap.mp h
  have hentry : ∀ k ∈ key :: v.innerKeys, k ∈ keys entries :=
    fun k hk => List.mem_flatMap.mpr ⟨(key, v), he, hk⟩
  have hkey := hentry key List.mem_cons_self
  cases v with
  | mapping inner =>
    obtain ⟨x, hx, rfl⟩ := List.mem_map.mp hl
    have hinner := hentry x.1 (List.mem_cons_of_mem _ (List.mem_map_of_mem hx))
    exact List.forall_mem_cons.mpr ⟨hkey, List.forall_mem_singleton.mpr hinner⟩
  | _ =>
    cases List.mem_singleton.mp hl
    exact List.forall_mem_singleton.mpr hkey

theorem map_ofLine?_lines (h : ∀ key ∈ keys entries, IsPlainKey key) :
    (lines entries).map Leaf.ofLine? = (Leaf.ofEntries entries).map some := by
  rw [lines_eq, List.map_map]
  apply List.map_congr_left
  intro l hl
  exact Leaf.ofLine?_line fun key hkey => h key (keys_subset hl hkey)

theorem lines_eq_iff {others : List (String × Value)} (h : ∀ key ∈ keys entries, IsPlainKey key)
    (hothers : ∀ key ∈ keys others, IsPlainKey key) :
    lines entries = lines others ↔ Leaf.ofEntries entries = Leaf.ofEntries others := by
  constructor
  · intro heq
    have hread := map_ofLine?_lines h
    rw [heq, map_ofLine?_lines hothers] at hread
    exact ((List.map_inj_right fun _ _ => Option.some.inj).mp hread).symm
  · intro heq
    rw [lines_eq, lines_eq, heq]

end Value

/-! Lines that are printed one after another. -/

namespace Text

/-- The text holds no line feed, and no escape, with which the sequences for a terminal begin. -/
def IsOneLine (s : String) : Prop := '\n' ∉ s.toList ∧ '\x1b' ∉ s.toList

instance (s : String) : Decidable (IsOneLine s) := inferInstanceAs (Decidable (_ ∧ _))

/-- Lines as they are printed, each ended by a line feed. -/
def printed (ls : List String) : String := String.join (ls.map (· ++ "\n"))

theorem toList_printed (ls : List String) :
    (printed ls).toList = (ls.map String.toList).flatMap (· ++ ['\n']) := by
  rw [printed, String.toList_join, List.flatMap_map, List.flatMap_map]
  congr 1
  funext s
  exact String.toList_append

variable {ls : List String}

theorem streamed_printed (h : ∀ s ∈ ls, IsOneLine s) : streamed (printed ls) = printed ls := by
  apply streamed_of_notMem
  rw [toList_printed]
  intro hmem
  obtain ⟨cs, hcs, hc⟩ := List.mem_flatMap.mp hmem
  obtain ⟨s, hs, rfl⟩ := List.mem_map.mp hcs
  rcases List.mem_append.mp hc with hc | hc
  · exact (h s hs).2 hc
  · exact absurd hc (by decide)

/-- Pieces that are each ended by a separator are told apart at the separators. -/
theorem splitOn_flatMap {sep : Char} {ps : List (List Char)} (h : ∀ p ∈ ps, sep ∉ p) :
    (ps.flatMap (· ++ [sep])).splitOn sep = ps ++ [[]] := by
  induction ps with
  | nil => rfl
  | cons p ps ih =>
    rw [List.flatMap_cons, List.append_assoc, List.singleton_append,
      List.splitOn_append_cons_self_of_not_mem (h p List.mem_cons_self),
      ih fun q hq => h q (List.mem_cons_of_mem p hq), List.cons_append]

theorem splitOn_printed (h : ∀ s ∈ ls, IsOneLine s) :
    ((printed ls).toList.splitOn '\n').map String.ofList = ls ++ [""] := by
  have hpieces : ∀ p ∈ ls.map String.toList, '\n' ∉ p := by
    intro p hp
    obtain ⟨s, hs, rfl⟩ := List.mem_map.mp hp
    exact (h s hs).1
  rw [toList_printed, splitOn_flatMap hpieces]
  simp

end Text

namespace Snapshot

/-- The text of the leaf to which the keys lead. -/
def textAt? (leaves : List Leaf) (holder? : Option String) (key : String) : Option String :=
  (leaves.find? fun l => l.holder? = holder? && l.key = key).map Leaf.text

/-- The flag that a text shows. -/
def flagOf? (text : String) : Option Bool :=
  if text = "True" then some true else if text = "False" then some false else none

/-- The report on the configuration that has the leaves. -/
def ofLeaves? (leaves : List Leaf) : Option Snapshot := do
  let outer := textAt? leaves none
  let inner := textAt? leaves (some "database")
  return {
    name := ← outer "name"
    version := ← outer "version"
    logLevel := ← outer "log_level"
    debug := ← (outer "debug").bind flagOf?
    binFolder := ← outer "bin_folder"
    databaseFolder := ← outer "db_folder"
    logFolder := ← outer "log_folder"
    database := {
      connection := ← inner "connection"
      host := ← inner "host"
      port := ← inner "port"
      database := ← inner "database"
      username := ← inner "username" } }

/-- The report on the configuration that is printed line by line. -/
def ofPrinted? (stdout : String) : Option Snapshot :=
  ofLeaves? (((stdout.toList.splitOn '\n').map String.ofList).filterMap Leaf.ofLine?)

variable {s : Snapshot}

theorem ofLeaves?_ofEntries (s : Snapshot) : ofLeaves? (Leaf.ofEntries s.entries) = some s := by
  obtain ⟨name, version, logLevel, debug, binFolder, databaseFolder, logFolder, database⟩ := s
  cases debug with
  | false => rfl
  | true => rfl

/-- All reports on the configuration have the same keys. -/
theorem keys_entries (s : Snapshot) :
    Value.keys s.entries = ["name", "version", "log_level", "debug", "bin_folder", "db_folder",
      "log_folder", "database", "connection", "host", "port", "database", "username"] := rfl

theorem isPlainKey_of_mem {key : String} (h : key ∈ Value.keys s.entries) :
    IsPlainKey key ∧ IsOneLine key := by
  rw [keys_entries] at h
  revert key
  decide

theorem isOneLine_lines (h : ∀ l ∈ Leaf.ofEntries s.entries, IsOneLine l.text) :
    ∀ line ∈ Value.lines s.entries, IsOneLine line := by
  rw [Value.lines_eq]
  intro line hline
  obtain ⟨l, hl, rfl⟩ := List.mem_map.mp hline
  have hkeys : ∀ key ∈ l.keys, IsOneLine key := fun key hkey =>
    (isPlainKey_of_mem (Value.keys_subset hl hkey)).2
  obtain ⟨hfeed, hescape⟩ := h l hl
  constructor
  · exact Leaf.notMem_line (by decide) (fun key hkey => (hkeys key hkey).1) hfeed
  · exact Leaf.notMem_line (by decide) (fun key hkey => (hkeys key hkey).2) hescape

/-- The leaves are read back from their lines; an empty line gives none. -/
theorem ofPrinted?_printed (h : ∀ l ∈ Leaf.ofEntries s.entries, IsOneLine l.text) :
    ofPrinted? (printed (Value.lines s.entries)) = some s := by
  have hread := Value.map_ofLine?_lines fun key (hkey : key ∈ Value.keys s.entries) =>
    (isPlainKey_of_mem hkey).1
  have hleaves : (Value.lines s.entries).filterMap Leaf.ofLine? = Leaf.ofEntries s.entries := by
    calc (Value.lines s.entries).filterMap Leaf.ofLine?
      _ = ((Value.lines s.entries).map Leaf.ofLine?).filterMap id := List.filterMap_map.symm
      _ = ((Leaf.ofEntries s.entries).map some).filterMap id := by rw [hread]
      _ = (Leaf.ofEntries s.entries).filterMap some := List.filterMap_map
      _ = Leaf.ofEntries s.entries := List.filterMap_some
  have hlast : Leaf.ofLine? "" = none := rfl
  rw [ofPrinted?, splitOn_printed (isOneLine_lines h), List.filterMap_append, hleaves,
    List.filterMap_cons_none hlast, List.filterMap_nil, List.append_nil, ofLeaves?_ofEntries]

end Snapshot

open CommandLine

namespace Machine

theorem perform_show_lines {m : Machine} {s : Snapshot} (h : m.snapshot none = .ok s)
    (hs : ∀ l ∈ Leaf.ofEntries s.entries, IsOneLine l.text) :
    perform m ["show"] = (.ok ⟨0, printed (Value.lines s.entries), "", []⟩, m.environment) := by
  have hshow : showSnapshot m false = .ok (.printed (printed (Value.lines s.entries))) := by
    rw [showSnapshot, h]
    rfl
  have hperform := perform_show m false
  rw [hshow, Ending.printed, streamed_printed (Snapshot.isOneLine_lines hs)] at hperform
  exact hperform

/-- The text of a report loses nothing. Where none of its keys, nor of those of the mappings in it,
holds a dot or a colon, it has one line for each entry that is not a mapping and one for each entry
of a mapping, in order, and each line is read back as its leaf: the keys that lead to it and its
text, whatever that is. Two such reports have the same lines if and only if they have the same
leaves in the same order. What `show` prints, where no text of the report on the configuration holds
a line feed or an escape, is parted at its line feeds into these lines, and is read back as the
report. -/
theorem lines_lose_nothing :
    (∀ entries : List (String × Value), (∀ key ∈ Value.keys entries, IsPlainKey key) →
      (Value.lines entries).length = Value.lineCount entries ∧
      (Value.lines entries).map Leaf.ofLine? = (Leaf.ofEntries entries).map some ∧
      ∀ others : List (String × Value), (∀ key ∈ Value.keys others, IsPlainKey key) →
        (Value.lines entries = Value.lines others ↔
          Leaf.ofEntries entries = Leaf.ofEntries others)) ∧
    ∀ (m : Machine) (s : Snapshot), m.snapshot none = .ok s →
      (∀ l ∈ Leaf.ofEntries s.entries, IsOneLine l.text) →
      ∃ stdout, perform m ["show"] = (.ok ⟨0, stdout, "", []⟩, m.environment) ∧
        (stdout.toList.splitOn '\n').map String.ofList = Value.lines s.entries ++ [""] ∧
        Snapshot.ofPrinted? stdout = some s := by
  constructor
  · intro entries h
    exact ⟨Value.length_lines entries, Value.map_ofLine?_lines h, fun _ => Value.lines_eq_iff h⟩
  · intro m s h hs
    exact ⟨printed (Value.lines s.entries), perform_show_lines h hs,
      splitOn_printed (Snapshot.isOneLine_lines hs), Snapshot.ofPrinted?_printed hs⟩

/-- A report with the marks between keys and texts in its texts, and in a key two mappings deep. -/
def markedEntries : List (String × Value) :=
  [("note", .text "a.b: c\nnote: d"),
    ("database", .mapping [("host", .mapping [("x.y: z", .number (-1))]),
      ("", .list [.absent, .text "it's", .flag true])])]

/-- The machine with a folder for log files whose path holds the marks. -/
def withMarkedFolder (m : Machine) : Machine :=
  { m with
    environment := m.environment.set Setting.logFolder.variableName "db_folder: database.log" }

/-- A mapping without entries has no leaf, and no line either. -/
theorem lines_lose_nothing_marked :
    (∀ key ∈ Value.keys markedEntries, IsPlainKey key) ∧
      (∀ key ∈ Value.keys (markedEntries ++ [("empty", .mapping [])]), IsPlainKey key) ∧
      (Value.lines markedEntries).map Leaf.ofLine? = (Leaf.ofEntries markedEntries).map some ∧
      Value.lines markedEntries = Value.lines (markedEntries ++ [("empty", .mapping [])]) ∧
      ∃ s stdout, outdated.withMarkedFolder.snapshot none = .ok s ∧
        s.logFolder = "db_folder: database.log" ∧
        (∀ l ∈ Leaf.ofEntries s.entries, IsOneLine l.text) ∧
        perform outdated.withMarkedFolder ["show"] =
          (.ok ⟨0, stdout, "", []⟩, outdated.withMarkedFolder.environment) ∧
        Snapshot.ofPrinted? stdout = some s := by
  have hkeys : ∀ key ∈ Value.keys markedEntries, IsPlainKey key := by decide
  have hmore : ∀ key ∈ Value.keys (markedEntries ++ [("empty", .mapping [])]), IsPlainKey key := by
    decide
  have hs : outdated.withMarkedFolder.snapshot none = .ok _ := rfl
  obtain ⟨hread, hshow⟩ := lines_lose_nothing
  obtain ⟨-, hleaves, hsame⟩ := hread markedEntries hkeys
  obtain ⟨stdout, hperform, -, hprinted⟩ := hshow _ _ hs (by decide +kernel)
  exact ⟨hkeys, hmore, hleaves, (hsame _ hmore).mpr rfl, _, stdout, hs, by decide +kernel,
    by decide +kernel, hperform, hprinted⟩

end Machine

end PanelConfig
