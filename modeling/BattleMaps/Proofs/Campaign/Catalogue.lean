import BattleMaps.Campaign.Catalog
import BattleMaps.Proofs.Campaign.Faults
import BattleMaps.Proofs.Files.Lookup
import BattleMaps.Proofs.Json.Members

/-!
# What a catalogue answers for the ids it lists

A catalogue lists an id for the name of an entry alone. What is found under that name decides the
rest: it need not be a file, the file need not be a text, and the campaign in it may have another
id. An id that is listed is answered for, with the campaign of that id or with the rule of the
format that its file breaks, exactly if none of this gets in the way.

## Main definitions

* `Catalog.place?` — where the directory of a catalogue lies
* `Catalog.LoadError.IsFormat` — whether a fault is one of the format
* `Catalog.IsAnswer` — whether what comes of loading answers for an id
* `Catalog.IsFit` — whether a file lets the catalogue answer for an id

## Main results

* `Catalog.mem_ids` — what is listed
* `Catalog.bytes_of_listed` — what is found under a listed id
* `Catalog.isAnswer_campaignIn_iff` — what is in a file that answers for an id
* `Catalog.listed_isAnswer_iff` — which listed ids are answered for
* `Catalog.shelf_misleads` — ids that are listed and not answered for
-/

namespace BattleMaps

open Files

namespace Catalog

variable {c : Catalog} {l : Location} {id name : String} {bytes : Bytes}

/-! ## Listing -/

/-- The place of a catalogue's directory, if there is one. -/
def place? (c : Catalog) : Option Location :=
  if c.directory.hasNull then none
  else
    match c.files.walk (c.directory.base c.current) c.directory.names with
    | .ok l => if c.files.entry? l = some .directory then some l else none
    | .error _ => none

theorem place?_eq_some_iff :
    c.place? = some l ↔ c.directory.hasNull = false ∧
      c.files.walk (c.directory.base c.current) c.directory.names = .ok l ∧
      c.files.entry? l = some .directory := by
  rw [place?]
  split_ifs with null
  · simp [null]
  · rw [Bool.not_eq_true] at null
    cases walked : c.files.walk (c.directory.base c.current) c.directory.names with
    | error fault => simp
    | ok l' =>
      simp only [Option.ite_none_right_eq_some, Option.some.injEq, null, Except.ok.injEq, true_and]
      constructor
      · rintro ⟨directory, rfl⟩
        exact ⟨rfl, directory⟩
      · rintro ⟨rfl, directory⟩
        exact ⟨directory, rfl⟩

/-- The ids for which the entries of a directory are named. -/
def idsAt (c : Catalog) (l : Location) : List String := (c.files.names l).filterMap idOfName?

theorem ids_eq : c.ids =
    c.place?.elim [] fun l => (Json.sortByKey ((c.idsAt l).map fun id => (id, ()))).map (·.1) := by
  rw [ids, place?]
  split_ifs
  · rfl
  · change (match c.files.walk (c.directory.base c.current) c.directory.names with
      | .ok l => _
      | .error _ => _) = _
    cases c.files.walk (c.directory.base c.current) c.directory.names with
    | error fault => rfl
    | ok l =>
      dsimp only
      cases c.files.entry? l with
      | none => rfl
      | some entry => cases entry <;> rfl

/-- A name stands for the id that it spells with the ending; the ending alone stands for itself. -/
theorem idOfName?_eq_some_iff :
    idOfName? name = some id ↔
      name = ending ∧ id = ending ∨ name ≠ ending ∧ name = id ++ ending := by
  rw [idOfName?]
  split_ifs with bare
  · simp [bare, eq_comm]
  · dsimp only
    have spelled : ∀ start, name.toList = start ++ ending.toList →
        name.toList.take (name.toList.length - ending.length) = start := by
      intro start parts
      rw [parts, List.length_append, String.length_toList, Nat.add_sub_cancel, List.take_left]
    simp only [Option.ite_none_right_eq_some, Option.some.injEq, bare, false_and, false_or,
      not_false_eq_true, true_and, ne_eq]
    constructor
    · rintro ⟨parts, rfl⟩
      rw [← String.toList_inj, String.toList_append, String.toList_ofList]
      exact parts
    · rintro rfl
      have start := spelled id.toList String.toList_append
      rw [start, String.ofList_toList]
      exact ⟨String.toList_append, rfl⟩

/-- What is listed has an entry that is named for it in the directory, or is the ending alone. -/
theorem mem_ids : id ∈ c.ids ↔ ∃ l, c.place? = some l ∧
    ∃ name entry, (l ++ [name], entry) ∈ c.files ∧ idOfName? name = some id := by
  rw [ids_eq]
  cases c.place? with
  | none => simp
  | some l => simp [idsAt, Tree.mem_names]

/-! ## Looking up -/

/-- The file that is looked up for a listed id has a name that something in a directory can have. -/
theorem isEntryName_of_listed (proper : c.files.IsProper) (listed : id ∈ c.ids) :
    IsEntryName (id ++ ending) := by
  obtain ⟨l, -, name, entry, there, named⟩ := mem_ids.mp listed
  rcases idOfName?_eq_some_iff.mp named with ⟨-, rfl⟩ | ⟨-, rfl⟩
  · decide
  · exact proper _ there _ (by simp)

/-- For a listed id, the file of that name is read, and nothing else is found there. -/
theorem bytes_of_listed (proper : c.files.IsProper) (here : c.place? = some l)
    (listed : id ∈ c.ids) :
    c.bytes id =
      if isLongPath (c.path id).text then .error (.inaccessible .tooLong)
      else
        match c.files.entry? (l ++ [id ++ ending]) with
        | some (.file bytes) => .ok bytes
        | _ => .error (.notFound id c.ids) := by
  have named := isEntryName_of_listed proper listed
  obtain ⟨noNull, walked, directory⟩ := place?_eq_some_iff.mp here
  have path : c.path id = c.directory.join ⟨.here, [id ++ ending]⟩ := by
    rw [Catalog.path, Path.ofString_of_isName named.isName named.noSlash]
  rw [Catalog.bytes, Tree.read, path, Tree.follow_join noNull walked directory named]
  split_ifs
  · rfl
  · cases c.files.entry? (l ++ [id ++ ending]) with
    | none => rfl
    | some entry => cases entry <;> rfl

/-! ## Loading -/

/-- Whether a fault says which rule of the format the file breaks. -/
inductive LoadError.IsFormat : LoadError → Prop
  | notJson (path : String) (e : Json.ReadError) : IsFormat (.notJson path e)
  | notAnObject (path : String) : IsFormat (.notAnObject path)
  | campaign (rule : Campaign.FormatError) : IsFormat (.campaign (.format rule))

/-- Whether what comes of loading answers for an id: the campaign that has it, or the rule that the
file breaks. -/
inductive IsAnswer (id : String) : Except LoadError Campaign → Prop
  | campaign (campaign : Campaign) (own : campaign.id = id) : IsAnswer id (.ok campaign)
  | fault (e : LoadError) (format : e.IsFormat) : IsAnswer id (.error e)

/-- Whether what a file says lets the catalogue answer for an id: a campaign in it has that id, and
no coordinate beyond all doubles is its first fault. -/
def Suits (id : String) (v : Json) : Prop :=
  ∀ fields, v = .object fields → ¬ Campaign.OverflowsCampaign fields ∧
    ∀ campaign, Campaign.ofFields fields = .ok campaign → campaign.id = id

/-- The value that a text file spells, whatever ends its lines. -/
def spelling (s : String) : Except Json.ReadError Json :=
  Json.read (String.ofList (Text.unifyLineEnds s.toList))

/-- Whether a file lets the catalogue answer for an id: it is a text, and what that spells suits the
id or is malformed, but is not past a limit of the reader. -/
inductive IsFit (id : String) (bytes : Bytes) : Prop
  | suits (s : String) (v : Json) (text : Text.Utf8.decode? bytes = some s)
      (spelled : spelling s = .ok v) (suits : Suits id v)
  | malformed (s : String) (what : Json.Malformation) (line column pos : Nat)
      (text : Text.Utf8.decode? bytes = some s)
      (misspelled : spelling s = .error (.malformed what line column pos))

/-- The campaign in a file. -/
def campaignIn (path : String) (bytes : Bytes) : Except LoadError Campaign := do
  match ← value path bytes with
  | .object fields => (Campaign.ofFields fields).mapError .campaign
  | _ => .error (.notAnObject path)

theorem load_eq : c.load id = c.bytes id >>= campaignIn (c.path id).text := rfl

theorem isAnswer_error_iff {e : LoadError} : IsAnswer id (.error e) ↔ e.IsFormat :=
  ⟨fun | .fault _ format => format, .fault e⟩

theorem isAnswer_ok_iff {campaign : Campaign} : IsAnswer id (.ok campaign) ↔ campaign.id = id :=
  ⟨fun | .campaign _ own => own, .campaign campaign⟩

/-- An object answers for an id if it breaks a rule or has that id. -/
theorem isAnswer_ofFields_iff {fields : Fields} :
    IsAnswer id ((Campaign.ofFields fields).mapError .campaign) ↔
      ¬ Campaign.OverflowsCampaign fields ∧
        ∀ campaign, Campaign.ofFields fields = .ok campaign → campaign.id = id := by
  have overflows := Campaign.ofFields_overflowsIff fields
  rw [← overflows.iff]
  cases result : Campaign.ofFields fields with
  | ok campaign => simp [Except.mapError, isAnswer_ok_iff]
  | error e =>
    rw [result] at overflows
    have format : IsAnswer id (.error (.campaign e)) ↔ e ≠ .hugeCoordinate := by
      rw [isAnswer_error_iff]
      rcases overflows.named e rfl with rfl | ⟨rule, rfl⟩
      · exact iff_of_false nofun (· rfl)
      · exact iff_of_true (.campaign rule) nofun
    simpa [Except.mapError] using format

theorem suits_of_ofFields_eq_ok {fields : Fields} {campaign : Campaign}
    (read : Campaign.ofFields fields = .ok campaign) (own : campaign.id = id) :
    Suits id (.object fields) := by
  rintro _ ⟨rfl⟩
  rw [← isAnswer_ofFields_iff, read]
  exact .campaign campaign own

/-- What makes a text file fit is what it spells. -/
theorem isFit_iff {s : String} (decoded : Text.Utf8.decode? bytes = some s) :
    IsFit id bytes ↔ (∃ v, spelling s = .ok v ∧ Suits id v) ∨
      ∃ what line column pos, spelling s = .error (.malformed what line column pos) := by
  constructor
  · rintro (⟨s', v, text, spelled, suits⟩ | ⟨s', what, line, column, pos, text, misspelled⟩) <;>
      obtain rfl := Option.some.inj (decoded.symm.trans text)
    · exact .inl ⟨v, spelled, suits⟩
    · exact .inr ⟨what, line, column, pos, misspelled⟩
  · rintro (⟨v, spelled, suits⟩ | ⟨what, line, column, pos, misspelled⟩)
    · exact .suits s v decoded spelled suits
    · exact .malformed s what line column pos decoded misspelled

/-- A file answers for an id exactly if it is fit for it. -/
theorem isAnswer_campaignIn_iff {path : String} :
    IsAnswer id (campaignIn path bytes) ↔ IsFit id bytes := by
  rw [campaignIn, value]
  cases decoded : Text.Utf8.decode? bytes with
  | none =>
    refine iff_of_false (mt isAnswer_error_iff.mp (by rintro ⟨⟩)) ?_
    rintro (⟨s, v, text, -, -⟩ | ⟨s, -, -, -, -, text, -⟩) <;> simp [decoded] at text
  | some s =>
    rw [isFit_iff decoded]
    dsimp only [spelling]
    cases Json.read (String.ofList (Text.unifyLineEnds s.toList)) with
    | ok v =>
      cases v with
      | object fields =>
        change IsAnswer id ((Campaign.ofFields fields).mapError .campaign) ↔ _
        simpa [Suits] using isAnswer_ofFields_iff
      | _ => exact iff_of_true (.fault _ (.notAnObject path)) (.inl ⟨_, rfl, by rintro _ ⟨⟩⟩)
    | error e =>
      cases e with
      | malformed what line column pos =>
        exact iff_of_true (.fault _ (.notJson path _)) (.inr ⟨what, line, column, pos, rfl⟩)
      | _ => exact iff_of_false (mt isAnswer_error_iff.mp (by rintro ⟨⟩)) (by simp)

/-- Whatever is in a file, it has been found. -/
theorem campaignIn_ne_notFound {path : String} {available : List String} :
    campaignIn path bytes ≠ .error (.notFound id available) := by
  intro h
  rcases bind_eq_error.mp h with failed | ⟨v, -, failed⟩
  · rw [value] at failed
    split at failed
    · cases failed
    · split at failed <;> cases failed
  · split at failed
    · rename_i fields
      cases result : Campaign.ofFields fields <;> rw [result] at failed <;> cases failed
    · cases failed

section Listed

variable (proper : c.files.IsProper) (here : c.place? = some l) (listed : id ∈ c.ids)

include proper here listed

theorem load_of_isLongPath (long : isLongPath (c.path id).text) :
    c.load id = .error (.inaccessible .tooLong) := by
  rw [load_eq, bytes_of_listed proper here listed, if_pos long]
  rfl

theorem load_of_file (short : isLongPath (c.path id).text = false)
    (file : c.files.entry? (l ++ [id ++ ending]) = some (.file bytes)) :
    c.load id = campaignIn (c.path id).text bytes := by
  rw [load_eq, bytes_of_listed proper here listed, if_neg (by simp [short]), file]
  rfl

theorem load_of_no_file (short : isLongPath (c.path id).text = false)
    (none : ∀ bytes, c.files.entry? (l ++ [id ++ ending]) ≠ some (.file bytes)) :
    c.load id = .error (.notFound id c.ids) := by
  rw [load_eq, bytes_of_listed proper here listed, if_neg (by simp [short])]
  split
  · rename_i bytes file
    exact absurd file (none bytes)
  · rfl

end Listed

/-- A catalogue that lists an id says that there is no file for it exactly if no file has the name
that is looked up; it answers for the id exactly if there is a file and that is fit; and different
ids that it answers for are those of different campaigns. -/
theorem listed_isAnswer_iff (proper : c.files.IsProper) (listed : id ∈ c.ids) :
    (∃ l, c.place? = some l ∧
      (c.load id = .error (.notFound id c.ids) ↔ isLongPath (c.path id).text = false ∧
        ∀ bytes, c.files.entry? (l ++ [id ++ ending]) ≠ some (.file bytes)) ∧
      (IsAnswer id (c.load id) ↔ isLongPath (c.path id).text = false ∧
        ∃ bytes, c.files.entry? (l ++ [id ++ ending]) = some (.file bytes) ∧ IsFit id bytes)) ∧
    ∀ other ∈ c.ids, other ≠ id → IsAnswer id (c.load id) → IsAnswer other (c.load other) →
      ∀ campaign campaign', c.load id = .ok campaign → c.load other = .ok campaign' →
        campaign.id ≠ campaign'.id := by
  constructor
  · obtain ⟨l, here, -⟩ := mem_ids.mp listed
    refine ⟨l, here, ?_⟩
    cases long : isLongPath (c.path id).text with
    | true =>
      have refused : ¬ IsAnswer id (.error (.inaccessible .tooLong)) :=
        mt isAnswer_error_iff.mp nofun
      rw [load_of_isLongPath proper here listed long]
      exact ⟨iff_of_false nofun (by simp), iff_of_false refused (by simp)⟩
    | false =>
      by_cases file : ∃ bytes, c.files.entry? (l ++ [id ++ ending]) = some (.file bytes)
      · obtain ⟨bytes, file⟩ := file
        rw [load_of_file proper here listed long file, isAnswer_campaignIn_iff, file]
        exact ⟨iff_of_false campaignIn_ne_notFound (by simp), by simp⟩
      · have refused : ¬ IsAnswer id (.error (.notFound id c.ids)) :=
          mt isAnswer_error_iff.mp nofun
        rw [not_exists] at file
        rw [load_of_no_file proper here listed long file]
        exact ⟨iff_of_true rfl ⟨rfl, file⟩,
          iff_of_false refused fun ⟨_, bytes, found, _⟩ => file bytes found⟩
  · intro other _ apart answered answered' campaign campaign' loaded loaded'
    rw [loaded, isAnswer_ok_iff] at answered
    rw [loaded', isAnswer_ok_iff] at answered'
    rw [answered, answered']
    exact apart.symm

/-! ## An untidy shelf -/

/-- The isle, without maps. -/
def isleText : String := "\x7b\"slug\":\"isle\"\x7d"

def isleFile : Bytes := Text.Utf8.encode isleText

/-- A shelf with the isle under its own name and under another one, and a directory that is named
like a file. -/
def shelf : Catalog where
  files :=
    [(["shelf"], .directory), (["shelf", "inn.json"], .directory),
     (["shelf", "isle.json"], .file isleFile), (["shelf", "moor.json"], .file isleFile)]
  directory := ⟨.root, ["shelf"]⟩

/-- The shelf answers for the isle, since the file of that name holds it. -/
theorem shelf_answers_isle :
    shelf.files.IsProper ∧ "isle" ∈ shelf.ids ∧ IsAnswer "isle" (shelf.load "isle") := by
  have proper : shelf.files.IsProper := by decide +kernel
  have listed : "isle" ∈ shelf.ids := by decide +kernel
  have spelled : spelling isleText = .ok (.object [("slug", .text "isle")]) := rfl
  have suits : Suits "isle" (.object [("slug", .text "isle")]) := suits_of_ofFields_eq_ok rfl rfl
  have fit : IsFit "isle" isleFile := .suits _ _ (by decide +kernel) spelled suits
  obtain ⟨l, here, -, answers⟩ := (listed_isAnswer_iff proper listed).1
  obtain rfl : ["shelf"] = l := Option.some.inj here
  exact ⟨proper, listed, answers.mpr ⟨by decide +kernel, isleFile, by decide +kernel, fit⟩⟩

/-- The shelf lists three ids. What it lists as the inn is not found, although the message names it
as available; what it lists as the moor is the isle, whose maps would go under the same keys. -/
theorem shelf_misleads :
    shelf.ids = ["inn", "isle", "moor"] ∧
      shelf.load "inn" = .error (.notFound "inn" ["inn", "isle", "moor"]) ∧
      (∃ campaign, shelf.load "isle" = .ok campaign ∧ campaign.id = "isle") ∧
      ∃ campaign, shelf.load "moor" = .ok campaign ∧ campaign.id = "isle" :=
  ⟨by decide +kernel, rfl, ⟨_, rfl, rfl⟩, ⟨_, rfl, rfl⟩⟩

end Catalog

end BattleMaps
