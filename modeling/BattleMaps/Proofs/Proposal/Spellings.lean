import BattleMaps.Campaign.Reader
import BattleMaps.Proofs.Json.WholeNumbers
import BattleMaps.Proofs.Proposal.Rectangles

/-!
# Numbers that come as texts

A whole number may be written as a number or as a text of its digits. A number is taken for exactly
what it is, a text for the nearest double. For most uses that makes no difference: a tile number is
small or none at all, and cells and the sides of a rectangle are brought onto the grid, which is
small too. Where a number is kept as it is, it makes a difference from `2 ^ 53` on, and from
`overflowBound` on the text is no number any more.

## Main definitions

* `Json.ReadsAs` — what a text means that spells an integer
* `SidesSpelled` — whether the sides of a rectangle are given as texts

## Main results

* `clamp_nearestInteger` — brought into a small range, an integer and its nearest double are alike
* `bounds_of_sidesSpelled` — a rectangle given by texts covers the cells that it should
* `wholeNumbers_read` — what numbers and texts are taken for
* `text_misread` — a text that is taken for another number
-/

namespace BattleMaps

open Decimal (IsInteger nearestInteger nearestInteger_of_le nearestInteger_mono
  le_nearestInteger nearestInteger_le overflowBound)
open Proposal

variable {s : String} {n low high : Int} {sides : Fields} {id : String} {wanted : Bounds}

/-! ## Small ranges -/

/-- Up to `2 ^ 53` an integer is kept, and beyond, its nearest double lies beyond as well. -/
theorem nearestInteger_cases (n : Int) :
    nearestInteger n = n ∨ 2 ^ 53 ≤ n ∧ 2 ^ 53 ≤ nearestInteger n ∨
      n ≤ -2 ^ 53 ∧ nearestInteger n ≤ -2 ^ 53 := by
  by_cases small : n.natAbs ≤ 2 ^ 53
  · exact .inl (nearestInteger_of_le small)
  · by_cases negative : n < 0
    · have large : n ≤ -2 ^ 53 := by omega
      exact .inr (.inr ⟨large, nearestInteger_le large⟩)
    · have large : 2 ^ 53 ≤ n := by omega
      exact .inr (.inl ⟨large, le_nearestInteger large⟩)

/-- Brought into a small range, an integer and its nearest double are the same. -/
theorem clamp_nearestInteger (least : -2 ^ 53 ≤ low) (order : low ≤ high)
    (greatest : high ≤ 2 ^ 53) : clamp (nearestInteger n) low high = clamp n low high := by
  rcases nearestInteger_cases n with kept | ⟨large, beyond⟩ | ⟨large, beyond⟩
  · rw [kept]
  · unfold clamp
    omega
  · unfold clamp
    omega

/-- A tile number is small, so a text gives the same tile as the number that it spells. -/
theorem Encoding.tileOf_text (e : Encoding) (padded : Text.IsPadded s (toString n)) :
    e.tileOf (.text s) = e.tileOf (.int n) := by
  have most : (e.maxTile : Int) < 2 ^ 53 := by cases e <;> decide
  rw [tileOf, tileOf, Json.wholeNumber?_text padded, Json.wholeNumber?]
  dsimp only
  by_cases bounded : n.natAbs < overflowBound
  · rw [if_pos bounded]
    dsimp only
    rcases nearestInteger_cases n with kept | ⟨large, beyond⟩ | ⟨large, beyond⟩
    · rw [kept]
    · rw [if_neg (by omega), if_neg (by omega)]
    · rw [if_neg (by omega), if_neg (by omega)]
  · have far : 2 ^ 53 ≤ n.natAbs := by
      unfold overflowBound at bounded
      omega
    rw [if_neg bounded, if_neg (by omega)]

/-- Cells are brought onto the grid, so a text names the same cell as the number that it spells. -/
theorem listedCells_text (padded : Text.IsPadded s (toString n))
    (bounded : n.natAbs < overflowBound) (before behind : List Json) :
    listedCells (before ++ .text s :: behind) = listedCells (before ++ .int n :: behind) := by
  have same : clamp (nearestInteger n) 0 (cellCount - 1) = clamp n 0 (cellCount - 1) :=
    clamp_nearestInteger (by decide) (by decide) (by decide)
  have text : (Json.text s).wholeNumber? = some (nearestInteger n) := by
    rw [Json.wholeNumber?_text padded, if_pos bounded]
  have number : (Json.int n).wholeNumber? = some n := rfl
  unfold listedCells
  rw [List.filterMap_append, List.filterMap_append, List.filterMap_cons_some text,
    List.filterMap_cons_some number, List.map_append, List.map_append, List.map_cons,
    List.map_cons, same]

/-! ## Rectangles -/

def Proposal.Bounds.side (b : Bounds) : Side → Int
  | .minRow => b.minRow
  | .maxRow => b.maxRow
  | .minCol => b.minCol
  | .maxCol => b.maxCol

/-- Whether the sides of a rectangle are given as texts. -/
def SidesSpelled (sides : Fields) (wanted : Bounds) : Prop :=
  ∀ which, ∃ s, givenSide sides which = .text s ∧ Text.IsPadded s (toString (wanted.side which))

/-- A rectangle whose sides are given as texts covers the cells that it would cover if they were
given as numbers, as long as it does not end before it starts. -/
theorem bounds_of_sidesSpelled (spelled : SidesSpelled sides wanted)
    (bounded : ∀ which, (wanted.side which).natAbs < overflowBound)
    (rows : wanted.minRow ≤ wanted.maxRow) (cols : wanted.minCol ≤ wanted.maxCol) :
    ∃ b, bounds id (.object sides) = .ok b ∧ b.cells = wanted.cells := by
  have read : ∀ which, (givenSide sides which).wholeNumber? =
      some (nearestInteger (wanted.side which)) := by
    intro which
    obtain ⟨s, given, padded⟩ := spelled which
    rw [given, Json.wholeNumber?_text padded, if_pos (bounded which)]
  have axis : ∀ n, onAxis (nearestInteger n) = onAxis n := by
    intro n
    rw [onAxis, onAxis, clamp_nearestInteger (by decide) (by decide) (by decide)]
  let b : Bounds := ⟨nearestInteger wanted.minRow, nearestInteger wanted.maxRow,
    nearestInteger wanted.minCol, nearestInteger wanted.maxCol⟩
  have described : b.DescribedBy sides :=
    ⟨read .minRow, read .maxRow, read .minCol, read .maxCol, nearestInteger_mono rows,
      nearestInteger_mono cols⟩
  exact ⟨b, bounds_eq_ok_iff.mpr described, by simp only [Bounds.cells, b, axis]⟩

/-! ## All whole numbers -/

/-- What a text means that spells an integer. -/
structure Json.ReadsAs (s : String) (n : Int) : Prop where
  read : (Json.text s).wholeNumber? =
    if n.natAbs < overflowBound then some (nearestInteger n) else none
  exact_iff : (Json.text s).wholeNumber? = some n ↔ ∃ x, IsInteger x n
  small : n.natAbs ≤ 2 ^ 53 → (Json.text s).wholeNumber? = some n
  tile : ∀ e : Encoding, e.tileOf (.text s) = e.tileOf (.int n)
  cells : n.natAbs < overflowBound → ∀ before behind,
    listedCells (before ++ .text s :: behind) = listedCells (before ++ .int n :: behind)
  -- A scale is kept as it is, so it is the same only where the text is exact.
  scale : (∃ x, IsInteger x n) → ∀ default,
    Campaign.numberOr default (.text s) = Campaign.numberOr default (.int n)

theorem Json.readsAs (padded : Text.IsPadded s (toString n)) : Json.ReadsAs s n where
  read := wholeNumber?_text padded
  exact_iff := wholeNumber?_text_eq_self_iff padded
  small small := by
    have bounded : n.natAbs < overflowBound := by
      unfold overflowBound
      omega
    rw [wholeNumber?_text padded, if_pos bounded, nearestInteger_of_le small]
  tile e := e.tileOf_text padded
  cells bounded := listedCells_text padded bounded
  scale exact default := by
    rw [Campaign.numberOr, Campaign.numberOr, (wholeNumber?_text_eq_self_iff padded).mpr exact]
    rfl

/-- An integer is taken for itself, a double for the integer that it equals, and a text of digits
for the nearest double. Tiles are the same in every spelling, and so are cells and rectangles up to
the largest double; what is kept as it is, is the same where it is a double. -/
theorem wholeNumbers_read (n : Int) (x : Float) :
    (Json.int n).wholeNumber? = some n ∧
      ((Json.real x).wholeNumber? = some n ↔ IsInteger x n) ∧
      (∀ s, Text.IsPadded s (toString n) → Json.ReadsAs s n) ∧
      ∀ sides wanted id, SidesSpelled sides wanted →
        (∀ which, (wanted.side which).natAbs < overflowBound) →
        wanted.minRow ≤ wanted.maxRow → wanted.minCol ≤ wanted.maxCol →
        ∃ b, bounds id (.object sides) = .ok b ∧ b.cells = wanted.cells :=
  ⟨rfl, Decimal.integer?_eq_some_iff, fun _ => Json.readsAs,
    fun _ _ _ spelled => bounds_of_sidesSpelled spelled⟩

/-- A rectangle from the third row down whose sides are texts; its last row lies far below the
grid. -/
def tallSides : Fields :=
  [("minRow", .text "2"), ("maxRow", .text " 9007199254740993 "), ("minCol", .text "0"),
   ("maxCol", .text "1\n")]

/-- The sides of the tall rectangle as they are spelled. -/
def tallBounds : Bounds := ⟨2, 9007199254740993, 0, 1⟩

theorem tallSides_read :
    Text.IsPadded "\t-9007199254740993" (toString (-9007199254740993 : Int)) ∧
      (Json.text "\t-9007199254740993").wholeNumber? = some (-9007199254740992) ∧
      listedCells [.int 3, .text "\t-9007199254740993", .int 7] = [3, 0, 7] ∧
      SidesSpelled tallSides tallBounds ∧
      ∃ b, bounds "hall" (.object tallSides) = .ok b ∧ b.cells = tallBounds.cells := by
  obtain ⟨-, -, spells, rectangles⟩ := wholeNumbers_read (-9007199254740993) 0
  have padded : Text.IsPadded "\t-9007199254740993" (toString (-9007199254740993 : Int)) :=
    ⟨"\t", "", by decide, by decide, by decide⟩
  have negative := spells _ padded
  have sides : SidesSpelled tallSides tallBounds := by
    rintro (_ | _ | _ | _)
    · exact ⟨"2", rfl, "", "", by decide, by decide, by decide⟩
    · exact ⟨" 9007199254740993 ", rfl, " ", " ", by decide, by decide, by decide⟩
    · exact ⟨"0", rfl, "", "", by decide, by decide, by decide⟩
    · exact ⟨"1\n", rfl, "", "\n", by decide, by decide, by decide⟩
  refine ⟨padded, ?_, ?_, sides, rectangles _ _ _ sides ?_ (by decide) (by decide)⟩
  · rw [negative.read]
    decide +kernel
  · exact (negative.cells (by decide +kernel) [.int 3] [.int 7]).trans (by decide)
  · rintro (_ | _ | _ | _) <;> decide +kernel

/-- A text may be taken for another number than the one that it spells, or for none, and then a
rectangle that ends before it starts may pass for one that does not. -/
theorem text_misread :
    (Json.text "9007199254740993").wholeNumber? = some 9007199254740992 ∧
      (Json.text (toString (10 ^ 309 : Int))).wholeNumber? = none ∧
      bounds "hall" (.object [("minRow", .text "9007199254740993"),
        ("maxRow", .text "9007199254740992")]) =
          .ok ⟨9007199254740992, 9007199254740992, 0, 0⟩ ∧
      bounds "hall" (.object [("minRow", .int 9007199254740993),
        ("maxRow", .int 9007199254740992)]) = .error (.reversedBounds "hall") := by
  have odd : (Json.text "9007199254740993").wholeNumber? = some 9007199254740992 := by
    decide +kernel
  have even : (Json.text "9007199254740992").wholeNumber? = some 9007199254740992 := by
    decide +kernel
  refine ⟨odd, ?_, bounds_eq_ok_iff.mpr ⟨odd, even, rfl, rfl, le_rfl, le_rfl⟩, rfl⟩
  rw [Json.wholeNumber?_text (.refl _)]
  exact if_neg (by decide +kernel)

end BattleMaps
