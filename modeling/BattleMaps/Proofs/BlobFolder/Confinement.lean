import BattleMaps.Proofs.BlobFolder.RoundTrip

/-!
# Nothing outside the root of a folder is touched

A path may lead back out of the root and into it again, or end in a place that only looks as if it
lay inside. All that counts is where it leads. If that is a place inside the root, the file there is
the only one that is written or read; if it is the root or a place outside, the path is refused
before any file is looked at.

## Main definitions

* `BlobFolder.KeepsInside` — whether keeping an object touches no file but its own
* `BlobFolder.FetchesInside` — whether fetching an object looks at no file but its own

## Main results

* `BlobFolder.upload_of_target_eq_error`, `BlobFolder.download_base` — a path that is refused is
  refused by both
* `BlobFolder.upload_changes` — all that keeping an object changes
* `BlobFolder.confined` — every path is confined to the root
-/

namespace BattleMaps

open Files

/-- What is read at a place is the file there. -/
theorem Files.Tree.entry?_of_readAt_eq_ok {t : Tree} {l : Location} {bytes : Bytes}
    (proper : l.IsProper) (read : t.readAt l = .ok bytes) : t.entry? l = some (.file bytes) := by
  rw [Tree.readAt, Tree.read, Tree.follow_eq (Tree.hasNull_of_isProper proper)] at read
  split_ifs at read
  · exact absurd read (by simp [Except.bind])
  · rcases led : t.walk (Path.base ⟨.root, l⟩ []) l with fault | l'
    · rw [led] at read
      exact absurd read (by simp [Except.bind])
    · obtain rfl : l' = l := Tree.walk_eq_ok proper led
      rw [led] at read
      rcases there : t.entry? l' with _ | entry
      · simp [Except.bind, there] at read
      · cases entry <;> simp_all [Except.bind, Tree.Entry.bytes]

namespace BlobFolder

variable {b : BlobFolder} {root path url start : String} {base : Option String}
  {current l place : Location} {bytes : Bytes} {t : Tree} {fault : BlobFault} {σ : Type}

/-! ## Keeping -/

theorem upload_of_target_eq_error (target : b.target path = .error fault) :
    b.upload path bytes t = (.error fault, t) := by
  rw [upload, target]

/-- What changes is the file of the object, inside the root, and directories on the way to it. -/
theorem upload_changes (sound : t.IsSound)
    (changed : Tree.entry? (b.upload path bytes t).2 place ≠ t.entry? place) :
    ∃ l, b.LeadsTo path l ∧ b.Encloses l ∧
      (place = l ∧ Tree.entry? (b.upload path bytes t).2 place = some (.file bytes) ∨
        place <+: l ∧ t.entry? place = none ∧
          Tree.entry? (b.upload path bytes t).2 place = some .directory) := by
  rw [snd_upload] at changed ⊢
  cases target : b.target path with
  | error fault =>
    rw [target] at changed
    exact absurd rfl changed
  | ok l =>
    rw [target] at changed
    dsimp only at changed ⊢
    obtain ⟨led, inside⟩ := target_eq_ok_iff.mp target
    have stored := Tree.stored_store sound l bytes
    refine ⟨l, led, inside, ?_⟩
    by_cases here : place = l
    · subst here
      exact .inl ⟨rfl, (stored.entry?_self.resolve_right fun h => changed h.2).2⟩
    · exact .inr ((stored.adds here).resolve_left changed)

/-- Whether keeping an object touches no file but its own, which lies inside the root. -/
structure KeepsInside (b : BlobFolder) (path : String) (bytes : Bytes) (t : Tree) : Prop where
  -- Directories on the way to the file are made where nothing was.
  writes : ∀ place, Tree.entry? (b.upload path bytes t).2 place ≠ t.entry? place →
    ∃ l, b.LeadsTo path l ∧ b.Encloses l ∧
      (place = l ∧ Tree.entry? (b.upload path bytes t).2 place = some (.file bytes) ∨
        place <+: l ∧ t.entry? place = none ∧
          Tree.entry? (b.upload path bytes t).2 place = some .directory)
  refuses : ∀ l, b.LeadsTo path l → ¬ b.Encloses l →
    b.upload path bytes t = (.error (.escapes path), t)
  -- A path with the null character leads nowhere.
  refusesNull : (∀ l, ¬ b.LeadsTo path l) →
    b.upload path bytes t = (.error (.file .nullCharacter), t)

theorem keepsInside (b : BlobFolder) (path : String) (bytes : Bytes) (sound : t.IsSound) :
    b.KeepsInside path bytes t where
  writes _ changed := upload_changes sound changed
  refuses _ led outside := upload_of_target_eq_error (target_of_not_encloses led outside)
  refusesNull nowhere := upload_of_target_eq_error (target_of_not_leadsTo nowhere)

/-! ## Fetching -/

/-- Under a base address, what is fetched is the file to which the path behind it leads. -/
theorem download_base (h : b.base = some start) (files : σ → Tree) (connection : Connection σ)
    (s : String) (world : σ) :
    b.download files connection (start ++ "/" ++ s) world =
      (match b.target (Text.Percent.decode s) with
       | .ok l => ((files world).readAt l).mapError .file
       | .error fault => .error fault, world) := by
  rw [download, source_base h]
  cases b.target (Text.Percent.decode s) <;> rfl

/-- Whether fetching by an address that spells a path looks at no file but the one to which the path
leads, which lies inside the root. -/
structure FetchesInside (b : BlobFolder) (files : σ → Tree) (connection : Connection σ)
    (url path : String) (world : σ) : Prop where
  writes : (b.download files connection url world).2 = world
  answers : ∀ bytes, (b.download files connection url world).1 = .ok bytes →
    ∃ l, b.LeadsTo path l ∧ b.Encloses l ∧ Tree.entry? (files world) l = some (.file bytes)
  -- What the other files hold makes no difference.
  reads : ∀ world', (∀ l, (files world').isDirectory? l = (files world).isDirectory? l) →
    (∀ l, b.LeadsTo path l → b.Encloses l →
      Tree.entry? (files world') l = Tree.entry? (files world) l) →
      (b.download files connection url world').1 = (b.download files connection url world).1
  refuses : ∀ l, b.LeadsTo path l → ¬ b.Encloses l →
    b.download files connection url world = (.error (.escapes path), world)
  -- A path with the null character leads nowhere.
  refusesNull : (∀ l, ¬ b.LeadsTo path l) →
    b.download files connection url world = (.error (.file .nullCharacter), world)

theorem fetchesInside (proper : current.IsProper)
    (h : (ofTexts root base current).base = some start) (files : σ → Tree)
    (connection : Connection σ) (s : String) (world : σ) :
    (ofTexts root base current).FetchesInside files connection (start ++ "/" ++ s)
      (Text.Percent.decode s) world := by
  have fetched := download_base h files connection s
  refine ⟨?_, fun bytes answer => ?_, fun world' kinds same => ?_, fun l led outside => ?_,
    fun nowhere => ?_⟩
  · rw [fetched]
  · rw [fetched] at answer
    cases target : (ofTexts root base current).target (Text.Percent.decode s) with
    | error fault =>
      rw [target] at answer
      exact absurd answer (by simp)
    | ok l =>
      obtain ⟨led, inside⟩ := target_eq_ok_iff.mp target
      rw [target] at answer
      dsimp only at answer
      refine ⟨l, led, inside, Tree.entry?_of_readAt_eq_ok (isProper_of_leadsTo proper led) ?_⟩
      cases read : (files world).readAt l with
      | error fault =>
        rw [read] at answer
        exact absurd answer (by simp [Except.mapError])
      | ok found =>
        rw [read] at answer
        exact congrArg Except.ok (Except.ok.inj answer)
  · rw [fetched, fetched]
    cases target : (ofTexts root base current).target (Text.Percent.decode s) with
    | error fault => rfl
    | ok l =>
      obtain ⟨led, inside⟩ := target_eq_ok_iff.mp target
      dsimp only
      rw [Tree.readAt_congr (isProper_of_leadsTo proper led) kinds (same l led inside)]
  · rw [fetched, target_of_not_encloses led outside]
  · rw [fetched, target_of_not_leadsTo nowhere]

/-! ## Both -/

/-- Whatever its path, an object is confined to the root: no file outside of it is written when the
object is kept or looked at when it is fetched under the base address, and a path that leads to the
root or out of it is refused. -/
theorem confined (root : String) (base : Option String) (proper : current.IsProper) :
    (∀ path bytes t, t.IsSound → (ofTexts root base current).KeepsInside path bytes t) ∧
      ∀ (σ : Type) (files : σ → Tree) (connection : Connection σ) (start s : String) (world : σ),
        (ofTexts root base current).base = some start →
          (ofTexts root base current).FetchesInside files connection (start ++ "/" ++ s)
            (Text.Percent.decode s) world :=
  ⟨fun path bytes _ sound => keepsInside _ path bytes sound,
    fun _ files connection _ s world h => fetchesInside proper h files connection s world⟩

/-- A file of another folder, whose name starts with that of the root, is neither written nor read,
and a path that leaves the root and comes back changes nothing outside of it. -/
theorem confined_beside :
    let b := ofTexts "maps" (some "https://maps.example/") ["srv"]
    let t := ((ofTexts "maps-old" none ["srv"]).upload "x" [7] []).2
    t.entry? ["srv", "maps-old", "x"] = some (.file [7]) ∧
      b.upload "/../maps-old/x" [1] t = (.error (.escapes "/../maps-old/x"), t) ∧
      b.download (id : Tree → Tree) (fun _ t => (.error (.unreachable ""), t))
        "https://maps.example/%2e%2e/maps-old/x" t = (.error (.escapes "../maps-old/x"), t) ∧
      ∀ place, Tree.entry? (b.upload "a/../../maps/b" [1] t).2 place ≠ t.entry? place →
        place <+: ["srv", "maps", "b"] := by
  intro b t
  have proper : Location.IsProper ["srv"] := by decide
  obtain ⟨keeps, fetches⟩ := confined "maps" (some "https://maps.example/") proper
  have sound : t.IsSound := isSound_upload Tree.isSound_nil
  have beside : ¬ b.Encloses ["srv", "maps-old", "x"] := by
    rw [Encloses, ← Location.isInside_iff]
    decide +kernel
  refine ⟨by decide +kernel, ?_, ?_, fun place changed => ?_⟩
  · refine (keeps _ _ t sound).refuses _ (leadsTo_iff.mpr ⟨?_, ?_⟩) beside <;> decide +kernel
  · refine (fetches Tree id _ "https://maps.example" "%2e%2e/maps-old/x" t ?_).refuses
      ["srv", "maps-old", "x"] (leadsTo_iff.mpr ⟨?_, ?_⟩) beside <;> decide +kernel
  · have back : b.LeadsTo "a/../../maps/b" ["srv", "maps", "b"] := by
      refine leadsTo_iff.mpr ⟨?_, ?_⟩ <;> decide +kernel
    obtain ⟨l, led, -, changes⟩ := (keeps _ _ t sound).writes place changed
    obtain rfl := back.unique led
    rcases changes with ⟨rfl, -⟩ | ⟨way, -⟩
    · exact List.prefix_rfl
    · exact way

end BlobFolder

end BattleMaps
