import BattleMaps.Proofs.BlobFolder.Places
import BattleMaps.Proofs.Text.Percent
import Mathlib.Data.List.TakeWhile

/-!
# Objects are fetched as they were kept

The address of an object leads back to it. Under a base address the path of the object is spelled
behind it and followed once more; without one the address spells the place of the file itself. So
the object is fetched as it was kept, as long as nothing else is kept at its place.

## Main definitions

* `BlobFolder.uploads` — the files after objects were kept one after the other
* `BlobFolder.FetchesSpelled` — whether an object comes back whose path needs much spelling

## Main results

* `BlobFolder.upload_eq_ok_iff` — when an object is kept
* `BlobFolder.source_address` — where the address of an object leads
* `BlobFolder.uploads_keeps` — files at other places stay as they are
* `BlobFolder.download_upload` — what was kept is fetched
-/

namespace BattleMaps

open Files

/-! ## Addresses of files -/

namespace Text.Url

/-- The address of a file is split behind the two slashes that stand for no host. -/
theorem parts?_file {path : String} {rest : List Char} (absolute : path.toList = '/' :: rest)
    (whole : ∀ c ∈ path.toList, isIgnored c = false ∧ c ≠ '#' ∧ c ≠ '?') :
    parts? ("file://" ++ path) = some ⟨"file", path⟩ := by
  have chars : ("file://" ++ path).toList =
      'f' :: 'i' :: 'l' :: 'e' :: ':' :: '/' :: '/' :: path.toList := String.toList_append
  have kept : ((("file://" ++ path).toList.dropWhile isControlOrSpace).filter (!isIgnored ·)) =
      'f' :: 'i' :: 'l' :: 'e' :: ':' :: '/' :: '/' :: path.toList := by
    rw [chars, List.dropWhile_cons_of_neg (by decide), List.filter_eq_self]
    simp only [List.forall_mem_cons]
    exact ⟨rfl, rfl, rfl, rfl, rfl, rfl, rfl, fun c member => by rw [(whole c member).1]; rfl⟩
  have scheme : splitScheme ('f' :: 'i' :: 'l' :: 'e' :: ':' :: '/' :: '/' :: path.toList) =
      ("file".toList, '/' :: '/' :: path.toList) := rfl
  have host : splitHost ('/' :: '/' :: path.toList) = ([], path.toList) := by
    rw [splitHost, absolute]
    rfl
  have noFragment : path.toList.takeWhile (· != '#') = path.toList :=
    List.takeWhile_eq_self_iff.mpr fun c member => by simpa using (whole c member).2.1
  have noQuery : path.toList.takeWhile (· != '?') = path.toList :=
    List.takeWhile_eq_self_iff.mpr fun c member => by simpa using (whole c member).2.2
  rw [parts?, kept]
  simp only [scheme, host, noFragment, noQuery, String.ofList_toList]
  rfl

/-- No character of an encoded path is left out of an address or ends its path. -/
theorem whole_of_mem_encode {s : String} {c : Char} (member : c ∈ (Percent.encode s).toList) :
    isIgnored c = false ∧ c ≠ '#' ∧ c ≠ '?' := by
  have apart : ∀ d, Percent.isPlain d = false → d ≠ '%' → c ≠ d := by
    rintro d notPlain notPercent rfl
    rcases Percent.mem_encode member with plain | percent
    · exact Bool.false_ne_true (notPlain.symm.trans plain)
    · exact notPercent percent
  have tab := apart '\t' (by decide) (by decide)
  have carriage := apart '\r' (by decide) (by decide)
  have feed := apart '\n' (by decide) (by decide)
  exact ⟨by simp [isIgnored, tab, carriage, feed], apart '#' (by decide) (by decide),
    apart '?' (by decide) (by decide)⟩

end Text.Url

namespace BlobFolder

variable {b : BlobFolder} {root path url start : String} {base : Option String}
  {current l place : Location} {bytes other : Bytes} {t t' : Tree}

/-! ## Keeping -/

/-- An object is kept exactly if its path leads to a place inside the root and the file system
takes it. -/
theorem upload_eq_ok_iff : b.upload path bytes t = (.ok url, t') ↔
    ∃ l, b.target path = .ok l ∧ t.store l bytes = (.ok (), t') ∧ b.address path l = url := by
  rw [upload]
  cases b.target path with
  | error fault => simp
  | ok l =>
    simp only [Except.ok.injEq, exists_eq_left']
    rcases t.store l bytes with ⟨fault | _, after⟩
    · cases fault <;> simp
    · simp [and_comm]

/-- Whatever comes of keeping an object, the files are as storing has left them. -/
theorem snd_upload : (b.upload path bytes t).2 =
    match b.target path with
    | .ok l => (t.store l bytes).2
    | .error _ => t := by
  rw [upload]
  cases b.target path with
  | error fault => rfl
  | ok l =>
    dsimp only
    rcases t.store l bytes with ⟨fault | _, after⟩
    · cases fault <;> rfl
    · rfl

theorem isSound_upload (sound : t.IsSound) : (b.upload path bytes t).2.IsSound := by
  rw [snd_upload]
  cases b.target path with
  | error fault => exact sound
  | ok l => exact (Tree.stored_store sound l bytes).sound

/-- A file stays as it is when an object is kept at another place. -/
theorem upload_keeps (sound : t.IsSound) (there : t.entry? l = some (.file other))
    (apart : ¬ b.LeadsTo path l) :
    Tree.entry? (b.upload path bytes t).2 l = some (.file other) := by
  rw [snd_upload]
  cases target : b.target path with
  | error fault => exact there
  | ok place =>
    refine (Tree.stored_store sound place bytes).file_of_ne ?_ there
    rintro rfl
    exact apart (target_eq_ok_iff.mp target).1

/-- The files after objects were kept one after the other, whether or not each could be. -/
def uploads (b : BlobFolder) : List (String × Bytes) → Tree → Tree
  | [], t => t
  | (path, bytes) :: rest, t => b.uploads rest (b.upload path bytes t).2

/-- Files at other places stay as they are, however many objects are kept. -/
theorem uploads_keeps {later : List (String × Bytes)} (sound : t.IsSound)
    (there : t.entry? l = some (.file other)) (apart : ∀ u ∈ later, ¬ b.LeadsTo u.1 l) :
    (b.uploads later t).IsSound ∧ Tree.entry? (b.uploads later t) l = some (.file other) := by
  induction later generalizing t with
  | nil => exact ⟨sound, there⟩
  | cons u rest ih =>
    obtain ⟨path, bytes⟩ := u
    exact ih (isSound_upload sound) (upload_keeps sound there (apart _ (List.mem_cons_self ..)))
      fun v member => apart v (List.mem_cons_of_mem _ member)

/-! ## Fetching -/

/-- What stands behind a start of an address is found again. -/
theorem after?_append (start s : String) : after? start (start ++ s) = some s := by
  rw [after?, String.toList_append, if_pos (by simp), ← String.length_toList, List.drop_left,
    String.ofList_toList]

/-- Under a base address, an address leads where the path behind it does. -/
theorem source_base (h : b.base = some start) (s : String) :
    b.source (start ++ "/" ++ s) = (b.target (Text.Percent.decode s)).map .object := by
  rw [source, h, Option.bind_some, after?_append]

/-- The address of an object leads to the place where it was kept. -/
theorem source_address (proper : l.IsProper) (target : b.target path = .ok l) :
    b.source (b.address path l) =
      .ok (if b.base.isSome then .object l else .file ⟨.root, l⟩) := by
  obtain ⟨led, inside⟩ := target_eq_ok_iff.mp target
  rw [address]
  cases h : b.base with
  | some start =>
    have again : b.target (dropSlashes path) = .ok l :=
      target_eq_ok_iff.mpr ⟨leadsTo_dropSlashes.mpr led, inside⟩
    refine (source_base h (Text.Percent.encode (dropSlashes path))).trans ?_
    rw [Text.Percent.decode_encode, again]
    rfl
  | none =>
    have below : l ≠ [] := by
      rintro rfl
      exact inside.2 (List.prefix_nil.mp inside.1).symm
    have absolute : (Text.Percent.encode l.text).toList =
        '/' :: (Text.Percent.encode l.text).toList.tail := by
      rw [Text.Percent.encode, Location.toList_text, String.toList_ofList, List.flatMap_cons,
        if_pos (by decide)]
      rfl
    have parts := Text.Url.parts?_file absolute fun c => Text.Url.whole_of_mem_encode
    rw [source, h, Option.bind_none]
    dsimp only
    rw [foreignSource, parts]
    dsimp only
    rw [if_pos rfl, Text.Percent.decode_encode, Path.ofString_text proper below]
    rfl

variable {σ : Type}

/-- What was kept is fetched by its address, also after other objects were kept, as long as none of
them has the same place. -/
theorem download_upload (root : String) (base : Option String) (proper : current.IsProper)
    (sound : t.IsSound)
    (kept : (ofTexts root base current).upload path bytes t = (.ok url, t'))
    (later : List (String × Bytes))
    (apart : ∀ u ∈ later, ∀ l, (ofTexts root base current).LeadsTo path l →
      ¬ (ofTexts root base current).LeadsTo u.1 l)
    (files : σ → Tree) (connection : Connection σ) {world : σ}
    (found : files world = (ofTexts root base current).uploads later t') :
    (ofTexts root base current).download files connection url world = (.ok bytes, world) := by
  obtain ⟨l, target, stored, rfl⟩ := upload_eq_ok_iff.mp kept
  have led := (target_eq_ok_iff.mp target).1
  have proper := isProper_of_leadsTo proper led
  -- The object is at its place once it is kept, and stays there.
  have result := Tree.stored_store sound l bytes
  rw [stored] at result
  obtain ⟨-, there⟩ := result.entry?_self.resolve_right fun h => h.1 rfl
  obtain ⟨sound', there'⟩ := uploads_keeps result.sound there fun u member => apart u member l led
  have read := Tree.readAt_of_file sound' proper there'
  rw [← found] at read
  rw [download, source_address proper target]
  split_ifs
  · exact congrArg (fun answer => (Except.mapError BlobFault.file answer, world)) read
  · exact congrArg (fun answer => (Except.mapError BlobFault.file answer, world)) read

/-- Whether an object whose path needs much spelling is fetched under a root that is seen from
elsewhere, after others were kept next to it and outside. -/
def FetchesSpelled (base : Option String) : Prop :=
  let b := ofTexts "../assets/./maps" base ["srv", "www"]
  let later := [("tavern/no 2.png", [3]), ("a/../tavern", []), ("../../etc/maps", [4])]
  ∃ url t, b.upload "//tavern/./no 1?#é%2f.png" [1, 2] [] = (.ok url, t) ∧
    b.download (id : Tree → Tree) (fun _ t => (.error (.unreachable ""), t)) url
      (b.uploads later t) = (.ok [1, 2], b.uploads later t)

theorem download_upload_spelled :
    FetchesSpelled none ∧ FetchesSpelled (some "https://maps.example/v1//") := by
  have proper : Location.IsProper ["srv", "www"] := by decide
  have fetches : ∀ base url t, (ofTexts "../assets/./maps" base ["srv", "www"]).upload
      "//tavern/./no 1?#é%2f.png" [1, 2] [] = (.ok url, t) → FetchesSpelled base := by
    intro base url t kept
    refine ⟨url, t, kept, download_upload _ base proper Tree.isSound_nil kept _ ?_ id _ rfl⟩
    -- The base address has no part in where a path leads.
    have place : (ofTexts "../assets/./maps" base ["srv", "www"]).place =
        (ofTexts "../assets/./maps" none ["srv", "www"]).place := rfl
    simp only [leadsTo_iff, place]
    rintro u member l ⟨-, rfl⟩ ⟨-, same⟩
    clear kept place
    revert u
    decide +kernel
  exact ⟨fetches none "file:///srv/assets/maps/tavern/no%201%3F%23%C3%A9%252f.png" _
      (Prod.ext (by decide +kernel) rfl),
    fetches _ "https://maps.example/v1/tavern/./no%201%3F%23%C3%A9%252f.png" _
      (Prod.ext (by decide +kernel) rfl)⟩

end BlobFolder

end BattleMaps
