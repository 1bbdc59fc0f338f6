import BattleMaps.Proofs.Json.Characters
import BattleMaps.Proofs.Json.Rearrangement
import BattleMaps.Proofs.Store.Saving

/-!
# Stored documents

A document is stored as its canonical text, which is printable ASCII and can be read back: what is
found in the table afterwards is the document that was put there, with its members in order. It is
found as long as no other row is saved under its id.

## Main definitions

* `saveAll` — the table after rows have been saved one after another

## Main results

* `document?_saveAll` — rows under other ids do not touch a document
* `document_survives` — a document is stored, and found again as what it was
-/

namespace BattleMaps.Store

open Json (Rearranged Regular)

variable {t : Table} {id : String} {rows : List Row} {fields : Fields}

/-- The table after rows have been saved one after another, refused or not. -/
def saveAll (t : Table) (rows : List Row) : Table := rows.foldl (fun t row => (save t row).2) t

theorem document?_save_of_ne {row : Row} (other : row.id ≠ id) :
    (save t row).2.document? id = t.document? id := by
  rw [save_eq]
  cases put : t.put row with
  | error c => rfl
  | ok t' => exact Table.document?_of_put_eq_ok_of_ne put other

/-- Rows under other ids do not touch a document. -/
theorem document?_saveAll (others : ∀ row ∈ rows, row.id ≠ id) :
    (saveAll t rows).document? id = t.document? id := by
  induction rows generalizing t with
  | nil => rfl
  | cons row rest ih =>
    have other : row.id ≠ id := others row (List.mem_cons_self ..)
    have others' := fun r found => others r (List.mem_cons_of_mem _ found)
    rw [saveAll, List.foldl_cons, ← saveAll, ih others', document?_save_of_ne other]

/-- A document without repeated keys, within the limits on nesting and on the digits of integers,
is written in printable ASCII and read back as the same document; it is written alike once it has
been read back, and with its members in any other order. A row that says it lets the document be
found, whatever is saved under other ids later. -/
theorem document_survives (regular : Regular Json.maxDepth (.object fields))
    (writable : Json.isWritable (.object fields)) :
    let text := Json.write (.object fields)
    (∀ c ∈ text.toList, ' ' ≤ c ∧ c ≤ '~') ∧
      (∃ found, Json.read text = .ok (.object found) ∧ Json.readFields text = found ∧
        Rearranged (.object found) (.object fields) ∧ Json.write (.object found) = text) ∧
      (∀ others, Rearranged (.object others) (.object fields) →
        Json.write (.object others) = text) ∧
      ∀ (t t' : Table) (row : Row) (later : List Row), row.payload = text → t.put row = .ok t' →
        (∀ r ∈ later, r.id ≠ row.id) →
        ∃ found, (saveAll t' later).document? row.id = some found ∧
          Rearranged (.object found) (.object fields) := by
  intro text
  have same := Json.rearranged_readFields_write regular writable
  refine ⟨fun c found => ?_, ⟨Json.readFields text, ?_, rfl, same, same.write_eq⟩,
    fun others rearranged => rearranged.write_eq,
    fun t t' row later payload put others => ⟨Json.readFields text, ?_, same⟩⟩
  · simpa [Json.isPrintable] using Json.isPrintable_of_mem_write regular found
  · rw [Json.readFields_write regular writable, Json.read_write regular writable,
      Json.sorted_object]
  · rw [document?_saveAll others, Table.document?_of_put_eq_ok put, payload]

/-! ## A document of everything -/

/-- A document with values of all kinds, and with characters of all kinds in its keys and texts. -/
def medley : Fields :=
  [("zeal", .array [.null, .bool true, .int (-10 ^ 40), .real 0.1, .real (0 / 0), .array []]),
   ("\x7f \u2028 \"quoted\" \\ \t", .text "ruins \x01, naïve 🐉\n"),
   ("map", .object [("wide", .real 1e300), ("deep", .object [("low", .bool false)])])]

def medleyRow : Row := ⟨"isle:medley", "isle", "medley", "combat", Json.write (.object medley)⟩

/-- The map that is saved after the medley. -/
def laterRow : Row := ⟨"isle:inn", "isle", "inn", "combat", ""⟩

theorem medley_survives :
    Regular Json.maxDepth (.object medley) ∧ Json.isWritable (.object medley) ∧
      (∀ c ∈ medleyRow.payload.toList, ' ' ≤ c ∧ c ≤ '~') ∧
      ∃ found, (saveAll [medleyRow] [laterRow]).document? "isle:medley" = some found ∧
        Rearranged (.object found) (.object medley) := by
  have regular : Regular Json.maxDepth (.object medley) := by decide +kernel
  have writable : Json.isWritable (.object medley) := by decide +kernel
  obtain ⟨printable, -, -, survives⟩ := document_survives regular writable
  have others : ∀ r ∈ [laterRow], r.id ≠ medleyRow.id := by decide +kernel
  exact ⟨regular, writable, printable, survives [] [medleyRow] medleyRow [laterRow] rfl rfl others⟩

end BattleMaps.Store
