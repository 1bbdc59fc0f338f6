import BattleMaps.BlobFolder
import BattleMaps.Proofs.Files.Storing

/-!
# Where the paths of objects lead

The path of an object is followed from the root of its folder, name by name. Where it leads decides
alone whether the object may be kept or fetched: to a place inside the root, and nowhere else.

## Main definitions

* `BlobFolder.LeadsTo` — whether the path of an object leads to a place
* `BlobFolder.Encloses` — whether a place lies inside the root of a folder

## Main results

* `BlobFolder.target_eq_ok_iff` — the place of an object is where its path leads inside the root
* `BlobFolder.target_of_not_encloses`, `BlobFolder.target_of_not_leadsTo` — the other paths are
  refused
-/

namespace BattleMaps

open Files

theorem Files.Location.isInside_iff {outer inner : Location} :
    outer.isInside inner = true ↔ outer <+: inner ∧ inner ≠ outer := by
  simp [Location.isInside, List.isPrefixOf_iff_prefix]

namespace BlobFolder

variable {b : BlobFolder} {root path : String} {base : Option String} {current l l' : Location}

/-- Whether the path of an object leads to a place: its names are followed from the root, and those
of the root from where the root is counted. -/
def LeadsTo (b : BlobFolder) (path : String) (l : Location) : Prop :=
  ∃ root, Location.LeadTo (b.root.base b.current) b.root.names root ∧
    Location.LeadTo root (Path.ofString path).names l

/-- Whether a place lies inside the root of a folder and is not the root itself. -/
def Encloses (b : BlobFolder) (l : Location) : Prop := b.place <+: l ∧ l ≠ b.place

/-- A path leads where its names lead from the root, unless a name can not be looked up. -/
theorem leadsTo_iff : b.LeadsTo path l ↔
    (∀ name ∈ b.root.names ++ (Path.ofString path).names, '\x00' ∉ name.toList) ∧
      (Path.ofString path).names.foldl Location.step b.place = l := by
  rw [LeadsTo, List.forall_mem_append]
  constructor
  · rintro ⟨root, led, further⟩
    obtain ⟨noNull, rfl⟩ := Location.leadTo_iff.mp led
    obtain ⟨noNull', rfl⟩ := Location.leadTo_iff.mp further
    exact ⟨⟨noNull, noNull'⟩, rfl⟩
  · rintro ⟨⟨noNull, noNull'⟩, rfl⟩
    exact ⟨b.place, Location.leadTo_iff.mpr ⟨noNull, rfl⟩, Location.leadTo_iff.mpr ⟨noNull', rfl⟩⟩

/-- A path leads to one place at most. -/
theorem LeadsTo.unique (h : b.LeadsTo path l) (h' : b.LeadsTo path l') : l = l' :=
  (leadsTo_iff.mp h).2.symm.trans (leadsTo_iff.mp h').2

/-- Whether the path of an object holds the null character, or the root of the folder does. -/
def hasNull (b : BlobFolder) (path : String) : Bool :=
  (b.root.join (Path.ofString (dropSlashes path))).hasNull

theorem names_join : (b.root.join (Path.ofString (dropSlashes path))).names =
    b.root.names ++ (Path.ofString path).names := by
  rw [Path.join, Path.start_dropSlashes, Path.names_dropSlashes]

theorem hasNull_eq_false_iff : b.hasNull path = false ↔
    ∀ name ∈ b.root.names ++ (Path.ofString path).names, '\x00' ∉ name.toList := by
  rw [hasNull, Path.hasNull, names_join, List.any_eq_false]
  simp

theorem target_eq : b.target path =
    if b.hasNull path then .error (.file .nullCharacter)
    else
      let l := (Path.ofString path).names.foldl Location.step b.place
      if b.place.isInside l then .ok l else .error (.escapes path) := by
  have led : (b.root.join (Path.ofString (dropSlashes path))).resolve b.current =
      (Path.ofString path).names.foldl Location.step b.place := by
    rw [Path.resolve_join (Path.start_dropSlashes path), Path.names_dropSlashes, place]
  rw [target, led]
  rfl

/-- The place of an object is where its path leads, inside the root. -/
theorem target_eq_ok_iff : b.target path = .ok l ↔ b.LeadsTo path l ∧ b.Encloses l := by
  rw [target_eq, leadsTo_iff, ← hasNull_eq_false_iff, Encloses, ← Location.isInside_iff]
  cases b.hasNull path with
  | true => simp
  | false =>
    dsimp only
    rw [if_neg Bool.false_ne_true]
    split_ifs with inside
    · simp only [Except.ok.injEq, true_and]
      exact ⟨fun same => ⟨same, same ▸ inside⟩, And.left⟩
    · simp only [true_and, false_iff, not_and]
      rintro rfl
      exact inside

/-- A path that leads out of the root, or to it, is refused. -/
theorem target_of_not_encloses (led : b.LeadsTo path l) (outside : ¬ b.Encloses l) :
    b.target path = .error (.escapes path) := by
  obtain ⟨noNull, rfl⟩ := leadsTo_iff.mp led
  rw [target_eq, hasNull_eq_false_iff.mpr noNull, if_neg Bool.false_ne_true]
  exact if_neg fun inside => outside (Location.isInside_iff.mp inside)

/-- A path that leads nowhere is refused. -/
theorem target_of_not_leadsTo (nowhere : ∀ l, ¬ b.LeadsTo path l) :
    b.target path = .error (.file .nullCharacter) := by
  have null : b.hasNull path = true := by
    by_contra noNull
    rw [Bool.not_eq_true] at noNull
    exact nowhere _ (leadsTo_iff.mpr ⟨hasNull_eq_false_iff.mp noNull, rfl⟩)
  rw [target_eq, null, if_pos rfl]

/-- Slashes at its start do not change where a path leads. -/
theorem leadsTo_dropSlashes : b.LeadsTo (dropSlashes path) l ↔ b.LeadsTo path l := by
  rw [leadsTo_iff, leadsTo_iff, Path.names_dropSlashes]

/-- The paths of objects lead to places with proper names. -/
theorem isProper_of_leadsTo (proper : current.IsProper)
    (led : (ofTexts root base current).LeadsTo path l) : l.IsProper := by
  obtain ⟨noNull, rfl⟩ := leadsTo_iff.mp led
  rw [List.forall_mem_append] at noNull
  have start : (ofTexts root base current).place.IsProper :=
    Path.isProper_resolve proper (Path.isSplit_ofString root) (by
      rw [Path.hasNull, List.any_eq_false]
      simpa using noNull.1)
  exact Location.isProper_foldl_step start fun name member notParent =>
    ⟨(Path.isSplit_ofString path name member).1, notParent,
      (Path.isSplit_ofString path name member).2, noNull.2 name member⟩

end BlobFolder

end BattleMaps
