import BattleMaps.Proofs.Files.Lookup

/-!
# Where paths lead

A text read as a path is split at its slashes. The path is resolved name by name, and a name either
leads into a directory or back out of one, so the place where it ends has proper names only. Such a
place has a text of its own, and that text reads back as the way to the place.

## Main definitions

* `IsProperName` — whether a text can be the name of one thing in a directory
* `Location.IsProper` — whether a place is given by proper names
* `Path.IsSplit` — whether the names of a path are names, and no longer paths
* `Location.LeadTo` — whether names lead from one place to another, name by name

## Main results

* `Text.separated_intercalate` — parts that are put together are told apart again
* `Path.isSplit_ofString` — a text is split into names
* `Location.leadTo_iff` — names lead where resolving them ends, unless one cannot be looked up
* `Path.resolve_join` — a path is followed from where the one before it leads
* `Path.isProper_resolve` — a path leads to a place with proper names
* `Path.ofString_text` — the text of a place reads back
-/

namespace BattleMaps

/-! ## Parts of a text -/

namespace Text

variable {separator : Char} {cs rest part : List Char} {parts : List (List Char)}

theorem separated_ne_nil : separated separator cs ≠ [] := by
  cases cs with
  | nil => exact List.cons_ne_nil _ _
  | cons c rest =>
    rw [separated]
    split_ifs
    · exact List.cons_ne_nil _ _
    · split <;> exact List.cons_ne_nil _ _

/-- A part ends where the first separator stands. -/
theorem separated_append (none : separator ∉ cs) :
    separated separator (cs ++ separator :: rest) = cs :: separated separator rest := by
  induction cs with
  | nil => exact if_pos rfl
  | cons c cs ih =>
    rw [List.mem_cons, not_or] at none
    rw [List.cons_append, separated, if_neg (Ne.symm none.1), ih none.2]

/-- Parts that are put together are told apart again. -/
theorem separated_intercalate (none : ∀ p ∈ parts, separator ∉ p) (filled : parts ≠ []) :
    separated separator ([separator].intercalate parts) = parts := by
  induction parts with
  | nil => exact absurd rfl filled
  | cons p parts ih =>
    have here := none p (List.mem_cons_self ..)
    cases parts with
    | nil => rw [List.intercalate_singleton, separated_of_not_mem here]
    | cons p' parts =>
      rw [List.intercalate_cons_cons, List.append_assoc, List.singleton_append,
        separated_append here,
        ih (fun q member => none q (List.mem_cons_of_mem _ member)) (List.cons_ne_nil _ _)]

theorem not_mem_of_mem_separated (member : part ∈ separated separator cs) : separator ∉ part := by
  induction cs generalizing part with
  | nil =>
    rw [separated, List.mem_singleton] at member
    exact member ▸ List.not_mem_nil
  | cons c rest ih =>
    rw [separated] at member
    split_ifs at member with ends
    · rcases List.mem_cons.mp member with rfl | member
      · exact List.not_mem_nil
      · exact ih member
    · -- the first part has one character more, and the others stay
      cases parts : separated separator rest with
      | nil => exact absurd parts separated_ne_nil
      | cons first others =>
        simp only [parts] at member ih
        rcases List.mem_cons.mp member with rfl | member
        · rw [List.mem_cons, not_or]
          exact ⟨Ne.symm ends, ih (List.mem_cons_self ..)⟩
        · exact ih (List.mem_cons_of_mem _ member)

end Text

namespace Files

variable {name : String} {here l current : Location} {names : List String} {p : Path}

/-! ## Proper names -/

/-- Whether a text can be the name of one thing in a directory, however long it is. -/
structure IsProperName (name : String) : Prop where
  isName : isName name
  notParent : name ≠ ".."
  noSlash : '/' ∉ name.toList
  noNull : '\x00' ∉ name.toList

instance (name : String) : Decidable (IsProperName name) :=
  decidable_of_iff (isName name ∧ name ≠ ".." ∧ '/' ∉ name.toList ∧ '\x00' ∉ name.toList)
    ⟨fun h => ⟨h.1, h.2.1, h.2.2.1, h.2.2.2⟩,
      fun h => ⟨h.isName, h.notParent, h.noSlash, h.noNull⟩⟩

/-- Whether a place is given by proper names. -/
def Location.IsProper (l : Location) : Prop := ∀ name ∈ l, IsProperName name

instance (l : Location) : Decidable l.IsProper :=
  inferInstanceAs (Decidable (∀ name ∈ l, IsProperName name))

theorem Location.isProper_nil : Location.IsProper [] := fun _ member => absurd member (by simp)

theorem Location.IsProper.of_prefix (proper : l.IsProper) (start : here <+: l) : here.IsProper :=
  fun name member => proper name (start.subset member)

/-! ## Resolving -/

/-- Whether the names of a path are names, and no longer paths. -/
def Path.IsSplit (p : Path) : Prop := ∀ name ∈ p.names, isName name ∧ '/' ∉ name.toList

/-- A text is split into names. -/
theorem Path.isSplit_ofString (s : String) : (Path.ofString s).IsSplit := by
  intro name member
  obtain ⟨among, isName⟩ := List.mem_filter.mp member
  obtain ⟨part, separate, rfl⟩ := List.mem_map.mp among
  refine ⟨isName, ?_⟩
  rw [String.toList_ofList]
  exact Text.not_mem_of_mem_separated separate

theorem Path.not_null_of_mem (noNull : p.hasNull = false) (member : name ∈ p.names) :
    '\x00' ∉ name.toList := by
  rw [Path.hasNull, List.any_eq_false] at noNull
  simpa using noNull name member

theorem Location.isProper_step (proper : here.IsProper)
    (next : name ≠ ".." → IsProperName name) : (Location.step here name).IsProper := by
  rw [Location.step]
  split_ifs with parent
  · exact proper.of_prefix (List.dropLast_prefix here)
  · intro n member
    rcases List.mem_append.mp member with member | member
    · exact proper n member
    · exact List.mem_singleton.mp member ▸ next parent

theorem Location.isProper_foldl_step (proper : here.IsProper)
    (next : ∀ name ∈ names, name ≠ ".." → IsProperName name) :
    (names.foldl Location.step here).IsProper := by
  induction names generalizing here with
  | nil => exact proper
  | cons name names ih =>
    exact ih (Location.isProper_step proper (next name (List.mem_cons_self ..)))
      fun n member => next n (List.mem_cons_of_mem _ member)

/-- A path leads to a place with proper names. -/
theorem Path.isProper_resolve (proper : current.IsProper) (split : p.IsSplit)
    (noNull : p.hasNull = false) : (p.resolve current).IsProper := by
  refine Location.isProper_foldl_step ?_ fun name member notParent =>
    ⟨(split name member).1, notParent, (split name member).2, Path.not_null_of_mem noNull member⟩
  cases p.start with
  | here => exact proper
  | root | doubleRoot => exact Location.isProper_nil

/-- A path is followed from where the one before it leads. -/
theorem Path.resolve_join {q : Path} (relative : q.start = .here) :
    (p.join q).resolve current = q.names.foldl Location.step (p.resolve current) := by
  rw [Path.join, relative]
  exact List.foldl_append

/-- Whether names lead from one place to another, name by name: `..` leads back, and every other
name one directory further. A name with the null character can not be looked up, so it leads
nowhere. -/
inductive Location.LeadTo : (here : Location) → (names : List String) → (l : Location) → Prop
  | arrived {here : Location} : LeadTo here [] here
  | back {here l : Location} {names : List String} (rest : LeadTo here.dropLast names l) :
      LeadTo here (".." :: names) l
  | further {here l : Location} {name : String} {names : List String} (notParent : name ≠ "..")
      (noNull : '\x00' ∉ name.toList) (rest : LeadTo (here ++ [name]) names l) :
      LeadTo here (name :: names) l

/-- Names lead where resolving them ends, unless one of them can not be looked up. -/
theorem Location.leadTo_iff : here.LeadTo names l ↔
    (∀ name ∈ names, '\x00' ∉ name.toList) ∧ names.foldl Location.step here = l := by
  constructor
  · intro led
    induction led with
    | arrived => exact ⟨by simp, rfl⟩
    | back rest ih => exact ⟨by simpa using ih.1, ih.2⟩
    | further notParent noNull rest ih =>
      refine ⟨by simpa using ⟨noNull, ih.1⟩, ?_⟩
      rw [List.foldl_cons, Location.step_of_ne notParent]
      exact ih.2
  · rintro ⟨noNull, rfl⟩
    induction names generalizing here with
    | nil => exact .arrived
    | cons name names ih =>
      have rest := @ih (Location.step here name)
        fun n member => noNull n (List.mem_cons_of_mem _ member)
      by_cases parent : name = ".."
      · subst parent
        exact .back rest
      · rw [Location.step_of_ne parent] at rest
        rw [List.foldl_cons, Location.step_of_ne parent]
        exact .further parent (noNull name (List.mem_cons_self ..)) rest

/-! ## Texts of places -/

theorem Location.toList_text (l : Location) :
    l.text.toList = '/' :: ['/'].intercalate (l.map String.toList) := by
  rw [Location.text, String.toList_append, String.toList_intercalate]
  rfl

/-- The text of a place reads back as the way to the place from the root. -/
theorem Path.ofString_text (proper : l.IsProper) (below : l ≠ []) :
    Path.ofString l.text = ⟨.root, l⟩ := by
  have noSlash : ∀ part ∈ l.map String.toList, '/' ∉ part := by
    intro part member
    obtain ⟨name, inside, rfl⟩ := List.mem_map.mp member
    exact (proper name inside).noSlash
  have parts : Text.separated '/' l.text.toList = [] :: l.map String.toList := by
    rw [Location.toList_text, Text.separated, if_pos rfl,
      Text.separated_intercalate noSlash (by simpa using below)]
  have one : l.text.toList.takeWhile (· == '/') = ['/'] := by
    obtain ⟨name, rest, rfl⟩ := List.exists_cons_of_ne_nil below
    have named := proper name (List.mem_cons_self ..)
    -- The first name is not empty, so something else follows the first slash.
    obtain ⟨c, more, chars⟩ : ∃ c more, name.toList = c :: more := by
      refine List.exists_cons_of_ne_nil fun empty => ?_
      obtain rfl := String.toList_eq_nil_iff.mp empty
      exact absurd named.isName (by decide)
    have apart : c ≠ '/' := fun same => named.noSlash (by rw [chars, same]; simp)
    rw [Location.toList_text, List.map_cons, chars]
    cases rest <;> simp [List.intercalate_cons_cons, apart]
  rw [Path.ofString, one, parts, List.map_cons, List.map_map]
  have back : l.map (String.ofList ∘ String.toList) = l :=
    (List.map_congr_left fun name _ => String.ofList_toList).trans (List.map_id l)
  rw [back, List.filter_cons_of_neg (by decide),
    List.filter_eq_self.mpr fun name member => (proper name member).isName]
  rfl

/-! ## Slashes at the start -/

/-- Without slashes at its start, a path is counted from where one is. -/
theorem Path.start_dropSlashes (s : String) : (Path.ofString (dropSlashes s)).start = .here := by
  have none : (dropSlashes s).toList.takeWhile (· == '/') = [] := by
    rw [dropSlashes, String.toList_ofList]
    cases left : s.toList.dropWhile (· == '/') with
    | nil => rfl
    | cons c rest =>
      have stops := List.head?_dropWhile_not (· == '/') s.toList
      rw [left] at stops
      exact List.takeWhile_cons_of_neg (by simpa using stops)
  rw [Path.ofString, none]
  rfl

/-- Slashes at the start of a path have no name before them. -/
theorem Path.names_dropSlashes (s : String) :
    (Path.ofString (dropSlashes s)).names = (Path.ofString s).names := by
  rw [Path.ofString, Path.ofString, dropSlashes, String.toList_ofList]
  dsimp only
  induction s.toList with
  | nil => rfl
  | cons c rest ih =>
    by_cases slash : c = '/'
    · subst slash
      rw [List.dropWhile_cons_of_pos rfl, ih, Text.separated, if_pos rfl, List.map_cons,
        List.filter_cons_of_neg (by decide)]
    · rw [List.dropWhile_cons_of_neg (by simpa using slash)]

end Files

end BattleMaps
