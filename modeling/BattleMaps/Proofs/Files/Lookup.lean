import BattleMaps.Files.Tree
import Mathlib.Data.List.Basic

/-!
# Names and where they lead

What a directory holds has a name, and that name leads from the directory to it. A text that is such
a name, read as a path, is that name and nothing else.

## Main definitions

* `IsEntryName` — whether something in a directory can have a name
* `Tree.IsProper` — whether everything in a tree has such names

## Main results

* `Path.ofString_of_isName` — a name read as a path
* `Tree.walk_append` — a way goes on from where its first part leads
* `Tree.mem_names` — what a directory holds
* `Tree.follow_join` — a path into a directory
-/

namespace BattleMaps

theorem Text.separated_of_not_mem {separator : Char} {cs : List Char} (none : separator ∉ cs) :
    Text.separated separator cs = [cs] := by
  induction cs with
  | nil => rfl
  | cons c rest ih =>
    rw [List.mem_cons, not_or] at none
    obtain ⟨apart, none⟩ := none
    rw [Text.separated, if_neg (Ne.symm apart), ih none]

namespace Files

variable {t : Tree} {name : String} {here l : Location} {names more : List String}

/-- Whether something in a directory can have a name. -/
structure IsEntryName (name : String) : Prop where
  isName : isName name
  notParent : name ≠ ".."
  noSlash : '/' ∉ name.toList
  noNull : '\x00' ∉ name.toList
  isShort : isLongName name = false

theorem isEntryName_iff :
    IsEntryName name ↔ isName name ∧ name ≠ ".." ∧ '/' ∉ name.toList ∧ '\x00' ∉ name.toList ∧
      isLongName name = false :=
  ⟨fun ⟨a, b, c, d, e⟩ => ⟨a, b, c, d, e⟩, fun ⟨a, b, c, d, e⟩ => ⟨a, b, c, d, e⟩⟩

instance : Decidable (IsEntryName name) := decidable_of_iff' _ isEntryName_iff

/-- Whether everything in a tree has names that something in a directory can have. -/
def Tree.IsProper (t : Tree) : Prop := ∀ entry ∈ t, ∀ name ∈ entry.1, IsEntryName name

instance : Decidable t.IsProper :=
  inferInstanceAs (Decidable (∀ entry ∈ t, ∀ name ∈ entry.1, IsEntryName name))

/-! ## Paths -/

/-- A name read as a path is that name. -/
theorem Path.ofString_of_isName (isName : isName name) (noSlash : '/' ∉ name.toList) :
    Path.ofString name = ⟨.here, [name]⟩ := by
  have start : name.toList.takeWhile (· == '/') = [] := by
    cases chars : name.toList with
    | nil => rfl
    | cons c rest =>
      rw [chars, List.mem_cons, not_or] at noSlash
      exact List.takeWhile_cons_of_neg (by simpa using Ne.symm noSlash.1)
  rw [Path.ofString, start, Text.separated_of_not_mem noSlash]
  simp [isName]

theorem Location.step_of_ne (notParent : name ≠ "..") : Location.step here name = here ++ [name] :=
  if_neg notParent

/-- The place from which a path is counted. -/
def Path.base (p : Path) (current : Location) : Location :=
  match p.start with
  | .here => current
  | _ => []

/-! ## Trees -/

namespace Tree

/-- A way goes on from where its first part leads. -/
theorem walk_append :
    t.walk here (names ++ more) = (t.walk here names).bind fun l => t.walk l more := by
  induction names generalizing here with
  | nil => rfl
  | cons name rest ih =>
    rw [List.cons_append, walk, walk]
    split
    · rfl
    · rfl
    · split_ifs
      · rfl
      · exact ih

theorem walk_singleton (directory : t.entry? here = some .directory) (notParent : name ≠ "..")
    (isShort : isLongName name = false) : t.walk here [name] = .ok (here ++ [name]) := by
  rw [walk, directory]
  dsimp only
  rw [isShort, if_neg Bool.false_ne_true, walk, Location.step_of_ne notParent]

/-- A directory holds what lies one name further. -/
theorem mem_names : name ∈ t.names l ↔ ∃ entry, (l ++ [name], entry) ∈ t := by
  simp only [names, List.mem_filterMap, Option.ite_none_right_eq_some, Prod.exists]
  constructor
  · rintro ⟨place, entry, there, inside, last⟩
    obtain ⟨start, rfl⟩ := List.getLast?_eq_some_iff.mp last
    rw [List.dropLast_concat] at inside
    exact ⟨entry, inside ▸ there⟩
  · rintro ⟨entry, there⟩
    exact ⟨_, entry, there, List.dropLast_concat, List.getLast?_concat⟩

/-- A path leads where its names lead from its start, if it can be followed at all. -/
theorem follow_eq {current : Location} {p : Path} (noNull : p.hasNull = false) :
    t.follow current p =
      if isLongPath p.text then .error .tooLong
      else (t.walk (p.base current) p.names).bind fun l =>
        (t.entry? l).elim (.error .notFound) .ok := by
  rw [follow, noNull, if_neg Bool.false_ne_true]
  split_ifs
  · rfl
  · split
    case h_1 fault stuck =>
      rw [show t.walk (p.base current) p.names = .error fault from stuck]
      rfl
    case h_2 l arrived =>
      rw [show t.walk (p.base current) p.names = .ok l from arrived, Except.bind]
      cases t.entry? l <;> rfl

/-- A path into a directory leads to what the directory holds under the name. -/
theorem follow_join {current : Location} {p : Path} (noNull : p.hasNull = false)
    (walked : t.walk (p.base current) p.names = .ok l) (directory : t.entry? l = some .directory)
    (h : IsEntryName name) :
    t.follow current (p.join ⟨.here, [name]⟩) =
      if isLongPath (p.join ⟨.here, [name]⟩).text then .error .tooLong
      else (t.entry? (l ++ [name])).elim (.error .notFound) .ok := by
  have noNull' : (p.join ⟨.here, [name]⟩).hasNull = false := by
    rw [Path.hasNull, List.any_eq_false] at noNull ⊢
    intro s there
    rcases List.mem_append.mp there with there | there
    · exact noNull s there
    · obtain rfl := List.mem_singleton.mp there
      simpa using h.noNull
  have led : t.walk (p.base current) (p.names ++ [name]) = .ok (l ++ [name]) := by
    rw [walk_append, walked]
    exact walk_singleton directory h.notParent h.isShort
  rw [follow_eq noNull']
  change ite _ _ ((t.walk (p.base current) (p.names ++ [name])).bind _) = _
  rw [led]
  rfl

end Tree

end Files

end BattleMaps
