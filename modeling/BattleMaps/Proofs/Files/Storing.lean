import BattleMaps.Proofs.Files.Paths
import Mathlib.Data.Bool.Basic
import Mathlib.Data.List.Induction

/-!
# What storing a file changes

Storing a file makes the directories on the way to its place and then puts the file there. It may
stop anywhere on the way, and then the directories made so far stay. Nothing else changes: no file
but the one at the place is touched, and no directory goes away. A file that is there is read back,
and what is read depends on no other file.

## Main definitions

* `Location.Fits` — whether names and paths are as short as they must be
* `Tree.IsSound` — whether a tree is one that a file system can hold
* `Tree.AddsDirectories` — whether only directories were added, on the way to a place
* `Tree.Stored` — all that storing a file can come to

## Main results

* `Tree.stored_store` — what storing a file comes to
* `Tree.Stored.file_of_ne` — the other files stay as they are
* `Tree.readAt_of_file` — a file that is there is read back
* `Tree.readAt_congr` — what is read depends on no other file
-/

namespace BattleMaps.Files

variable {t t' t'' : Tree} {l here place : Location} {name : String} {names more : List String}
  {e : Entry} {bytes : Bytes}

/-! ## Lengths -/

/-- Whether the names of a place and its whole path are as short as they must be. -/
def Location.Fits (l : Location) : Prop :=
  (∀ name ∈ l, isLongName name = false) ∧ isLongPath l.text = false

theorem prefix_intercalate {α : Type} {separator : List α} {parts others : List (List α)}
    (start : parts <+: others) : separator.intercalate parts <+: separator.intercalate others := by
  induction parts generalizing others with
  | nil => exact List.nil_prefix
  | cons part parts ih =>
    obtain ⟨rest, rfl⟩ := start
    cases parts with
    | nil =>
      cases rest with
      | nil => exact List.prefix_rfl
      | cons next rest =>
        rw [List.singleton_append, List.intercalate_singleton, List.intercalate_cons_cons,
          List.append_assoc]
        exact List.prefix_append ..
    | cons next parts =>
      rw [List.cons_append, List.cons_append, List.intercalate_cons_cons,
        List.intercalate_cons_cons]
      exact (List.prefix_append_right_inj _).mpr (ih (List.prefix_append ..))

/-- The path of a place on the way is no longer. -/
theorem Location.isLongPath_of_prefix (start : here <+: l) (short : isLongPath l.text = false) :
    isLongPath here.text = false := by
  have texts : here.text.toList <+: l.text.toList := by
    rw [Location.toList_text, Location.toList_text]
    exact (List.prefix_cons_inj _).mpr (prefix_intercalate (start.map String.toList))
  obtain ⟨rest, longer⟩ := texts
  have split : l.text = here.text ++ String.ofList rest := by
    rw [← String.toList_inj, String.toList_append, String.toList_ofList, longer]
  rw [isLongPath, decide_eq_false_iff_not, split, String.utf8ByteSize_append] at short
  rw [isLongPath, decide_eq_false_iff_not]
  omega

theorem Location.Fits.of_prefix (fits : l.Fits) (start : here <+: l) : here.Fits :=
  ⟨fun name member => fits.1 name (start.subset member),
    Location.isLongPath_of_prefix start fits.2⟩

theorem Location.fits_nil : Location.Fits [] :=
  ⟨fun _ member => absurd member List.not_mem_nil, by decide⟩

/-! ## Entries -/

namespace Tree

@[simp] theorem entry?_nil : t.entry? [] = some .directory := rfl

theorem entry?_of_ne_nil (below : l ≠ []) : t.entry? l = t.lookup l := by
  rw [ entry?, if_neg (by simpa using below)]

theorem lookup_put : (t.put l e).lookup place = if place = l then some e else t.lookup place := by
  unfold put
  split_ifs with known same same
  · subst same
    -- The first entry of the place is met sooner or later, and it is the new one.
    induction t with
    | nil => contradiction
    | cons entry rest ih => grind
  · clear known
    induction t with
    | nil => rfl
    | cons entry rest ih => grind
  · subst same
    grind
  · grind

theorem entry?_put_self (below : l ≠ []) : Tree.entry? (t.put l e) l = some e := by
  rw [entry?_of_ne_nil below, lookup_put, if_pos rfl]

theorem entry?_put_of_ne (apart : place ≠ l) : Tree.entry? (t.put l e) place = t.entry? place := by
  by_cases below : place = []
  · subst below
    rfl
  · rw [entry?_of_ne_nil below, lookup_put, if_neg apart, entry?_of_ne_nil below]

/-- Whether a tree is one that a file system can hold: what is there lies in a directory, and its
path is not too long. -/
structure IsSound (t : Tree) : Prop where
  parent : ∀ l e, t.entry? l = some e → t.entry? l.dropLast = some .directory
  fits : ∀ l e, t.entry? l = some e → l.Fits

theorem isSound_nil : IsSound [] := by
  have onlyRoot : ∀ l e, entry? [] l = some e → l = [] := by
    intro l e there
    by_contra below
    rw [entry?_of_ne_nil below] at there
    exact absurd there (by simp)
  refine ⟨fun l e there => ?_, fun l e there => ?_⟩
  · rw [onlyRoot l e there]
    rfl
  · rw [onlyRoot l e there]
    exact Location.fits_nil

/-- The places on the way to something are directories. -/
theorem IsSound.directory_of_prefix (sound : t.IsSound) (there : t.entry? l = some e)
    (start : here <+: l) (apart : here ≠ l) : t.entry? here = some .directory := by
  induction l using List.reverseRecOn generalizing e with
  | nil => exact absurd (List.prefix_nil.mp start) apart
  | append_singleton l name ih =>
    have parent := sound.parent _ _ there
    rw [List.dropLast_concat] at parent
    rcases List.prefix_concat_iff.mp start with same | start
    · exact absurd same apart
    · by_cases same : here = l
      · exact same ▸ parent
      · exact ih parent start same

/-- Where nothing is, nothing lies further on. -/
theorem IsSound.entry?_eq_none (sound : t.IsSound) (nothing : t.entry? here = none)
    (start : here <+: l) : t.entry? l = none := by
  cases there : t.entry? l with
  | none => rfl
  | some e =>
    by_cases same : here = l
    · rw [same, there] at nothing
      exact absurd nothing (by simp)
    · rw [sound.directory_of_prefix there start same] at nothing
      exact absurd nothing (by simp)

/-- A tree stays one that a file system can hold if something is put into a directory, in place of
no directory. -/
theorem IsSound.put (sound : t.IsSound) (below : l ≠ [])
    (parent : t.entry? l.dropLast = some .directory) (free : t.entry? l ≠ some .directory)
    (fits : l.Fits) : (t.put l e).IsSound := by
  have notSelf : l.dropLast ≠ l := by
    intro same
    have := congrArg List.length same
    rw [List.length_dropLast] at this
    have := List.length_pos_iff.mpr below
    omega
  refine ⟨fun place other there => ?_, fun place other there => ?_⟩
  · by_cases same : place = l
    · rw [same, entry?_put_of_ne notSelf, parent]
    · rw [entry?_put_of_ne same] at there
      have directory := sound.parent _ _ there
      rw [entry?_put_of_ne, directory]
      rintro rfl
      exact free directory
  · by_cases same : place = l
    · exact same ▸ fits
    · rw [entry?_put_of_ne same] at there
      exact sound.fits _ _ there

/-! ## Making directories -/

/-- Whether a tree is another one with directories added on the way to a place, where nothing
was. -/
structure AddsDirectories (t t' : Tree) (l : Location) : Prop where
  sound : t'.IsSound
  adds : ∀ place, t'.entry? place = t.entry? place ∨
    place <+: l ∧ t.entry? place = none ∧ t'.entry? place = some .directory

theorem AddsDirectories.refl (sound : t.IsSound) : AddsDirectories t t l :=
  ⟨sound, fun _ => .inl rfl⟩

theorem AddsDirectories.trans (first : AddsDirectories t t' l) (second : AddsDirectories t' t'' l) :
    AddsDirectories t t'' l := by
  refine ⟨second.sound, fun place => ?_⟩
  rcases first.adds place with same | ⟨start, nothing, made⟩
  · rw [← same]
    exact second.adds place
  · refine .inr ⟨start, nothing, ?_⟩
    rcases second.adds place with same | ⟨-, nothing', -⟩
    · rw [same, made]
    · rw [made] at nothing'
      exact absurd nothing' (by simp)

/-- One directory more, in one that is there. -/
theorem addsDirectories_put (sound : t.IsSound) (parent : t.entry? here = some .directory)
    (nothing : t.entry? (here ++ [name]) = none) (start : here ++ [name] <+: l)
    (fits : (here ++ [name]).Fits) :
    AddsDirectories t (t.put (here ++ [name]) .directory) l := by
  have below : here ++ [name] ≠ [] := List.concat_ne_nil _ _
  refine ⟨sound.put below (by rwa [List.dropLast_concat]) (by rw [nothing]; simp) fits,
    fun place => ?_⟩
  by_cases same : place = here ++ [name]
  · subst same
    exact .inr ⟨start, nothing, entry?_put_self below⟩
  · exact .inl (entry?_put_of_ne same)

/-- New directories are added one in the other; if none of their names is too long, all of them
are. -/
theorem addsDirectories_makeNew (sound : t.IsSound) (parent : t.entry? here = some .directory)
    (nothing : ∀ name ∈ names.head?, t.entry? (here ++ [name]) = none)
    (short : isLongPath (Location.text (here ++ names)) = false) :
    AddsDirectories t (t.makeNew here names).2 (here ++ names) ∧
      ((t.makeNew here names).1 = .ok () →
        Tree.entry? (t.makeNew here names).2 (here ++ names) = some .directory) := by
  induction names generalizing t here with
  | nil =>
    rw [List.append_nil]
    exact ⟨.refl sound, fun _ => parent⟩
  | cons name rest ih =>
    have split : here ++ name :: rest = here ++ [name] ++ rest := by simp
    have start : here ++ [name] <+: here ++ name :: rest := split ▸ List.prefix_append ..
    rw [makeNew]
    split_ifs with long
    · exact ⟨.refl sound, fun done => absurd done (by simp)⟩
    · have nothing := nothing name rfl
      have fits : (here ++ [name]).Fits := by
        refine ⟨fun n member => ?_, Location.isLongPath_of_prefix start short⟩
        rcases List.mem_append.mp member with member | member
        · exact (sound.fits _ _ parent).1 n member
        · rw [List.mem_singleton.mp member]
          exact Bool.eq_false_iff.mpr long
      have added := addsDirectories_put sound parent nothing start fits
      obtain ⟨further, all⟩ := ih (t := t.put (here ++ [name]) .directory) added.sound
        (entry?_put_self (List.concat_ne_nil _ _))
        (fun next _ => by
          rw [entry?_put_of_ne (by simp)]
          exact sound.entry?_eq_none nothing (List.prefix_append ..))
        (split ▸ short)
      rw [split] at added ⊢
      exact ⟨added.trans further, all⟩

/-- Directories are added from the first one that is missing. -/
theorem addsDirectories_makeDirectories (sound : t.IsSound)
    (parent : t.entry? here = some .directory)
    (short : isLongPath (Location.text (here ++ names)) = false) :
    AddsDirectories t (t.makeDirectories here names).2 (here ++ names) ∧
      ((t.makeDirectories here names).1 = .ok () →
        Tree.entry? (t.makeDirectories here names).2 (here ++ names) = some .directory) := by
  induction names generalizing here with
  | nil =>
    rw [List.append_nil]
    exact ⟨.refl sound, fun _ => parent⟩
  | cons name rest ih =>
    have split : here ++ name :: rest = here ++ [name] ++ rest := by simp
    rw [makeDirectories]
    cases next : t.entry? (here ++ [name]) with
    | none =>
      dsimp only
      split_ifs
      · exact ⟨.refl sound, fun done => absurd done (by simp)⟩
      · exact addsDirectories_makeNew sound parent (fun n first => by
          obtain rfl := Option.some.inj first
          exact next) short
    | some entry =>
      cases entry with
      | directory =>
        rw [split] at short ⊢
        exact ih next short
      | file _ => exact ⟨.refl sound, fun done => absurd done (by simp)⟩

/-! ## Storing -/

/-- All that storing a file at a place can come to: directories on the way are added, and either
the file is put into the last of them or something has failed. -/
inductive Stored (t : Tree) (l : Location) (bytes : Bytes) : Except FileFault Unit × Tree → Prop
  | written {way : Tree} (added : AddsDirectories t way l.dropLast) (below : l ≠ [])
      (parent : way.entry? l.dropLast = some .directory) (free : way.entry? l ≠ some .directory)
      (fits : l.Fits) : Stored t l bytes (.ok (), way.put l (.file bytes))
  | failed {way : Tree} {fault : FileFault} (added : AddsDirectories t way l.dropLast) :
      Stored t l bytes (.error fault, way)

/-- What storing a file comes to. -/
theorem stored_store (sound : t.IsSound) (l : Location) (bytes : Bytes) :
    Stored t l bytes (t.store l bytes) := by
  rw [store]
  split_ifs with long
  · exact .failed (.refl sound)
  · obtain ⟨added, all⟩ := @addsDirectories_makeDirectories t [] l.dropLast sound
      rfl (Bool.eq_false_iff.mpr long)
    rw [List.nil_append] at added all
    rcases made : t.makeDirectories [] l.dropLast with ⟨_ | _, way⟩
    · rw [made] at added
      exact .failed added
    · rw [made] at added all
      have parent := all rfl
      dsimp only at added parent ⊢
      rw [writeAt]
      cases there : way.entry? l with
      | none =>
        dsimp only
        split_ifs with tooLong
        · exact .failed added
        · rw [Bool.or_eq_true, not_or, Bool.not_eq_true, Bool.not_eq_true, List.any_eq_false]
            at tooLong
          refine .written added ?_ parent (by simp [there])
            ⟨fun name member => Bool.eq_false_iff.mpr (tooLong.1 name member), tooLong.2⟩
          rintro rfl
          exact absurd there (by simp)
      | some entry =>
        cases entry with
        | directory => exact .failed added
        | file other =>
          refine .written added ?_ parent (by simp [there]) (added.sound.fits _ _ there)
          rintro rfl
          exact absurd there (by simp)

variable {result : Except FileFault Unit × Tree}

theorem Stored.sound (h : Stored t l bytes result) : result.2.IsSound := by
  cases h with
  | written added below parent free fits => exact added.sound.put below parent free fits
  | failed added => exact added.sound

/-- Elsewhere nothing changes but that directories are added on the way. -/
theorem Stored.adds (h : Stored t l bytes result) (apart : place ≠ l) :
    Tree.entry? result.2 place = t.entry? place ∨
      place <+: l ∧ t.entry? place = none ∧ Tree.entry? result.2 place = some .directory := by
  have added : ∀ {way}, AddsDirectories t way l.dropLast → way.entry? place = t.entry? place ∨
      place <+: l ∧ t.entry? place = none ∧ way.entry? place = some .directory := fun added =>
    (added.adds place).imp_right fun h => ⟨h.1.trans (List.dropLast_prefix l), h.2⟩
  cases h with
  | written way =>
    dsimp only
    rw [entry?_put_of_ne apart]
    exact added way
  | failed way => exact added way

/-- The other files stay as they are. -/
theorem Stored.file_of_ne {other : Bytes} (h : Stored t l bytes result) (apart : place ≠ l)
    (there : t.entry? place = some (.file other)) :
    Tree.entry? result.2 place = some (.file other) := by
  rcases h.adds apart with same | ⟨-, nothing, -⟩
  · rw [same, there]
  · rw [there] at nothing
    exact absurd nothing (by simp)

/-- At the place there is the file afterwards, or what was there before. -/
theorem Stored.entry?_self (h : Stored t l bytes result) :
    result.1 = .ok () ∧ Tree.entry? result.2 l = some (.file bytes) ∨
      result.1 ≠ .ok () ∧ Tree.entry? result.2 l = t.entry? l := by
  cases h with
  | written added below => exact .inl ⟨rfl, entry?_put_self below⟩
  | failed added =>
    refine .inr ⟨by simp, ?_⟩
    rcases added.adds l with same | ⟨start, -⟩
    · exact same
    · -- The way to a place ends before it, unless the place is the root, which is there.
      have short := start.length_le
      rw [List.length_dropLast] at short
      obtain rfl : l = [] := List.length_eq_zero_iff.mp (by omega)
      rfl

/-! ## Reading -/

theorem hasNull_of_isProper (proper : l.IsProper) : Path.hasNull ⟨.root, l⟩ = false := by
  rw [Path.hasNull, List.any_eq_false]
  intro name member
  simpa using (proper name member).noNull

/-- Through directories a way leads where its names say. -/
theorem walk_of_directories (notParent : ∀ name ∈ names, name ≠ "..")
    (short : ∀ name ∈ names, isLongName name = false)
    (way : ∀ start, start <+: names → start ≠ names →
      t.entry? (here ++ start) = some .directory) :
    t.walk here names = .ok (here ++ names) := by
  induction names generalizing here with
  | nil => rw [walk, List.append_nil]
  | cons name rest ih =>
    have directory := way [] List.nil_prefix (List.cons_ne_nil _ _).symm
    rw [List.append_nil] at directory
    have first := List.mem_cons_self (a := name) (l := rest)
    rw [walk, directory]
    dsimp only
    rw [short name first, if_neg Bool.false_ne_true, Location.step_of_ne (notParent name first),
      ih (fun n member => notParent n (List.mem_cons_of_mem _ member))
        (fun n member => short n (List.mem_cons_of_mem _ member))
        (fun start inside apart => by
          rw [List.append_assoc]
          exact way (name :: start) ((List.prefix_cons_inj _).mpr inside) (by simpa using apart)),
      List.append_assoc, List.singleton_append]

/-- A file that is there is read back. -/
theorem readAt_of_file (sound : t.IsSound) (proper : l.IsProper)
    (there : t.entry? l = some (.file bytes)) : t.readAt l = .ok bytes := by
  obtain ⟨names, path⟩ := sound.fits _ _ there
  have led : t.walk [] l = .ok l :=
    walk_of_directories (fun n member => (proper n member).notParent) names
      fun start inside apart => sound.directory_of_prefix there inside apart
  have followed : t.follow [] ⟨.root, l⟩ = .ok (.file bytes) := by
    rw [follow_eq (hasNull_of_isProper proper)]
    change (if isLongPath l.text then _ else (t.walk [] l).bind _) = _
    rw [path, if_neg Bool.false_ne_true, led, Except.bind, there]
    rfl
  rw [readAt, read, followed]
  rfl

/-- Whether there is a directory at a place, or a file, whatever it holds. -/
def isDirectory? (t : Tree) (l : Location) : Option Bool :=
  (t.entry? l).map fun e => e == .directory

theorem walk_cons : t.walk here (name :: names) =
    match t.isDirectory? here with
    | none => .error .notFound
    | some false => .error .notADirectory
    | some true => if isLongName name then .error .tooLong else t.walk (here.step name) names := by
  rw [walk, isDirectory?]
  cases t.entry? here with
  | none => rfl
  | some e => cases e <;> rfl

/-- A way is the same in trees with files and directories at the same places. -/
theorem walk_congr (kinds : ∀ l, t.isDirectory? l = t'.isDirectory? l) :
    t.walk here names = t'.walk here names := by
  induction names generalizing here with
  | nil => rfl
  | cons name rest ih => rw [walk_cons, walk_cons, kinds here, ih]

/-- A way over proper names leads where they say or nowhere. -/
theorem walk_eq_ok (proper : Location.IsProper names) (led : t.walk here names = .ok l) :
    l = here ++ names := by
  induction names generalizing here with
  | nil =>
    rw [walk] at led
    rw [List.append_nil, Except.ok.inj led]
  | cons name rest ih =>
    rw [walk] at led
    split at led
    · exact absurd led (by simp)
    · exact absurd led (by simp)
    · split_ifs at led
      rw [Location.step_of_ne (proper name (List.mem_cons_self ..)).notParent] at led
      rw [ih (fun n member => proper n (List.mem_cons_of_mem _ member)) led, List.append_assoc,
        List.singleton_append]

/-- What is read at a place depends on the other files only in that they are files. -/
theorem readAt_congr (proper : l.IsProper) (kinds : ∀ l, t.isDirectory? l = t'.isDirectory? l)
    (same : t.entry? l = t'.entry? l) : t.readAt l = t'.readAt l := by
  have followed : t.follow [] ⟨.root, l⟩ = t'.follow [] ⟨.root, l⟩ := by
    rw [follow_eq (hasNull_of_isProper proper), follow_eq (hasNull_of_isProper proper)]
    change (if isLongPath l.text then _ else (t.walk [] l).bind _) =
      if isLongPath l.text then _ else (t'.walk [] l).bind _
    rw [← walk_congr kinds]
    cases led : t.walk [] l with
    | error fault => rfl
    | ok l' =>
      obtain rfl : l' = l := walk_eq_ok proper led
      simp only [Except.bind, same]
  rw [readAt, read, followed]
  rfl

end Tree

end BattleMaps.Files
