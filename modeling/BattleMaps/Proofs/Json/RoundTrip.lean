import BattleMaps.Proofs.Json.Canonical
import BattleMaps.Proofs.Json.Numbers
import BattleMaps.Proofs.Json.Texts

/-!
# Written values read back

Reading goes forward and never back, so a written value can be read in front of anything that no
number goes on with. The loops over items and members take one part at a time; each part is
followed by a comma or by the closing bracket, and both end a number.

## Main definitions

* `Reads` — whether a reader takes exactly a given text, whatever may stand behind it

## Main results

* `reads_array`, `reads_object` — a list or an object is read if what is inside it is
* `reads_writeChars` — the reader takes exactly what was written for a value
* `read_write` — a written value is read as the value with its members in order
* `readFields_write` — and so is a written document
-/

namespace BattleMaps.Json

open Fields (HasDistinctKeys)

variable {depth fuel start pos : Nat} {v w : Json} {items : List Json} {fields : Fields}
  {rest text : List Char}

/-- What may stand behind a value: nothing, a comma or a closing bracket. -/
def Boundary (rest : List Char) : Prop := ∀ c ∈ rest.head?, c = ',' ∨ c = ']' ∨ c = '}'

/-- Whether a reader takes exactly the given text and yields the given value. -/
def Reads {α : Type} (reader : Cursor → Except Fault (α × Cursor)) (text : List Char) (a : α) :
    Prop :=
  ∀ rest pos, Boundary rest → reader ⟨text ++ rest, pos⟩ = .ok (a, ⟨rest, pos + text.length⟩)

theorem Boundary.endsNumber (h : Boundary rest) : EndsNumber rest := by
  intro c head
  rcases h c head with rfl | rfl | rfl <;> decide

/-! ## How values start -/

/-- The characters that a written word or number may start with. -/
def startsAtom (c : Char) : Bool := c.isDigit || ['n', 't', 'f', '-', 'N', 'I'].contains c

/-- The characters that a written value may start with. -/
def startsValue (c : Char) : Bool := startsAtom c || ['"', '[', '{'].contains c

theorem ne_of_startsAtom {c d : Char} (h : startsAtom c) (other : startsAtom d = false) :
    c ≠ d := by
  rintro rfl
  rw [h] at other
  exact Bool.noConfusion other

theorem startsValue_cases {c : Char} (h : startsValue c) :
    isSpace c = false ∧ c ≠ ']' ∧ c ≠ '}' ∧ c ≠ '\uFEFF' := by
  rw [startsValue, Bool.or_eq_true] at h
  rcases h with atom | listed
  · have apart := fun d => ne_of_startsAtom (d := d) atom
    refine ⟨?_, apart _ rfl, apart _ rfl, apart _ rfl⟩
    simp [isSpace, apart ' ' rfl, apart '\t' rfl, apart '\n' rfl, apart '\r' rfl]
  · simp only [List.contains_iff_mem, List.mem_cons, List.not_mem_nil, or_false] at listed
    rcases listed with rfl | rfl | rfl <;> decide

/-- Whether the first character of a text is one of the given kind. -/
def Starts (kind : Char → Bool) (text : List Char) : Prop := ∃ c cs, text = c :: cs ∧ kind c

theorem Starts.append {kind : Char → Bool} (h : Starts kind text) : Starts kind (text ++ rest) := by
  obtain ⟨c, cs, rfl, start⟩ := h
  exact ⟨c, cs ++ rest, rfl, start⟩

theorem Starts.value (h : Starts startsAtom text) : Starts startsValue text := by
  obtain ⟨c, cs, rfl, start⟩ := h
  exact ⟨c, cs, rfl, by rw [startsValue, start, Bool.true_or]⟩

theorem starts_signChars_append {negative : Bool} {cs : List Char}
    (h : ∃ c rest, cs = c :: rest ∧ c.isDigit) : Starts startsAtom (signChars negative ++ cs) := by
  obtain ⟨c, rest, rfl, digit⟩ := h
  cases negative with
  | true => exact ⟨'-', _, rfl, rfl⟩
  | false => exact ⟨c, _, rfl, by rw [startsAtom, digit, Bool.true_or]⟩

theorem starts_toString_int (n : Int) : Starts startsAtom (toString n).toList := by
  rw [toList_toString_int]
  exact starts_signChars_append (exists_cons_toDigits n.natAbs)

theorem starts_render (x : Float) : Starts startsAtom (Decimal.render numberWords x).toList := by
  cases value : Decimal.valueOf x with
  | nan =>
    rw [Decimal.render, value]
    exact ⟨'N', _, rfl, rfl⟩
  | infinite negative =>
    rw [Decimal.render, value]
    cases negative with
    | true => exact ⟨'-', _, rfl, rfl⟩
    | false => exact ⟨'I', _, rfl, rfl⟩
  | finite b =>
    obtain ⟨n, form, chars, -⟩ := exists_numeral_render value
    rw [chars]
    exact starts_signChars_append (exists_cons_chars form)

theorem starts_writeText (s : String) : Starts startsValue (writeText s) := ⟨'"', _, rfl, rfl⟩

theorem starts_writeChars (v : Json) : Starts startsValue (writeChars v) := by
  cases v with
  | null => exact ⟨'n', _, rfl, rfl⟩
  | bool b =>
    cases b with
    | true => exact ⟨'t', _, rfl, rfl⟩
    | false => exact ⟨'f', _, rfl, rfl⟩
  | int n =>
    rw [writeChars]
    exact (starts_toString_int n).value
  | real x =>
    rw [writeChars]
    exact (starts_render x).value
  | text s =>
    rw [writeChars]
    exact starts_writeText s
  | array items =>
    rw [writeChars]
    exact ⟨'[', _, rfl, rfl⟩
  | object fields =>
    rw [writeChars]
    exact ⟨'{', _, rfl, rfl⟩

theorem skipSpaces_cons {c : Char} {cs : List Char} (h : isSpace c = false) :
    Cursor.skipSpaces ⟨c :: cs, pos⟩ = ⟨c :: cs, pos⟩ := by
  simp [Cursor.skipSpaces, Cursor.drop, h]

theorem Starts.skipSpaces (h : Starts startsValue text) :
    Cursor.skipSpaces ⟨text, pos⟩ = ⟨text, pos⟩ := by
  obtain ⟨c, cs, rfl, start⟩ := h
  exact skipSpaces_cons (startsValue_cases start).1

/-- No value starts with the mark that would stop the reader before the first character. -/
theorem Starts.noMark (h : Starts startsValue text) : ¬ (text.head? == some '\uFEFF') := by
  obtain ⟨c, cs, rfl, start⟩ := h
  rw [List.head?_cons, beq_iff_eq, Option.some.injEq]
  exact (startsValue_cases start).2.2.2

/-! ## Parts between commas -/

section Parts

variable {α β : Type} {spell : β → List Char} {meaning : β → α} {parts : List β} {close : Char}
  {part : Cursor → Except Fault (α × Cursor)} {done : List α}

theorem starts_commaSeparated (filled : parts ≠ [])
    (starts : ∀ b ∈ parts, Starts startsValue (spell b)) :
    Starts startsValue (commaSeparated (parts.map spell)) := by
  match parts with
  | [] => exact absurd rfl filled
  | [b] => exact starts b (List.mem_cons_self ..)
  | b :: _ :: _ => exact (starts b (List.mem_cons_self ..)).append

theorem commaSeparated_cons_cons (first next : List Char) (others : List (List Char)) :
    commaSeparated (first :: next :: others) =
      first ++ ',' :: commaSeparated (next :: others) := rfl

theorem length_le_length_commaSeparated {texts : List (List Char)} (found : text ∈ texts) :
    text.length ≤ (commaSeparated texts).length := by
  induction texts with
  | nil => exact absurd found List.not_mem_nil
  | cons first others ih =>
    cases others with
    | nil =>
      rw [List.mem_singleton.mp found]
      exact le_rfl
    | cons next others =>
      rw [commaSeparated_cons_cons, List.length_append, List.length_cons]
      rcases List.mem_cons.mp found with rfl | found
      · omega
      · have := ih found
        omega

/-- The commas alone make the text long enough for the loop over its parts. -/
theorem length_le_commaSeparated (texts : List (List Char)) :
    texts.length ≤ (commaSeparated texts).length + 1 := by
  induction texts with
  | nil => exact Nat.zero_le _
  | cons first others ih =>
    cases others with
    | nil => simp
    | cons next others =>
      rw [commaSeparated_cons_cons, List.length_append]
      simp only [List.length_cons] at *
      omega

/-- A list or an object within the fuel leaves fuel for its parts, in number and in length. -/
theorem room_of_commaSeparated (enough : (commaSeparated (parts.map spell)).length + 2 ≤ fuel) :
    parts.length ≤ fuel ∧ ∀ b ∈ parts, (spell b).length ≤ fuel := by
  constructor
  · have count := length_le_commaSeparated (parts.map spell)
    rw [List.length_map] at count
    omega
  · intro b found
    have := length_le_length_commaSeparated (List.mem_map_of_mem (f := spell) found)
    omega

/-- The loop takes a part that a comma follows, and goes on behind the comma. -/
theorem readParts_comma {a : α} (reads : Reads part text a) (apart : close ≠ ',') :
    readParts close part (fuel + 1) done ⟨text ++ ',' :: rest, pos⟩ =
      readParts close part fuel (a :: done) (Cursor.skipSpaces ⟨rest, pos + text.length + 1⟩) := by
  rw [readParts, reads (',' :: rest) pos (by simp [Boundary])]
  simp only [bind, Except.bind, skipSpaces_cons (c := ',') rfl, Cursor.drop, List.drop_one,
    List.tail_cons, List.head?_cons, Option.some.injEq, apart.symm, if_false, if_true]

/-- The loop over parts reads parts that stand between commas. -/
theorem readParts_commaSeparated (isBoundary : Boundary (close :: rest))
    (apart : isSpace close = false ∧ close ≠ ',') (filled : parts ≠ [])
    (enough : parts.length ≤ fuel) (starts : ∀ b ∈ parts, Starts startsValue (spell b))
    (reads : ∀ b ∈ parts, Reads part (spell b) (meaning b)) :
    readParts close part fuel done ⟨commaSeparated (parts.map spell) ++ close :: rest, pos⟩ =
      .ok (done.reverse ++ parts.map meaning,
        ⟨rest, pos + (commaSeparated (parts.map spell)).length + 1⟩) := by
  -- The loop takes the last part differently from the others: behind it stands the bracket, which
  -- ends the loop, and behind the others a comma.
  induction parts generalizing fuel done pos with
  | nil => exact absurd rfl filled
  | cons b others ih =>
    obtain ⟨fuel, rfl⟩ : ∃ left, fuel = left + 1 := ⟨fuel - 1, by simp at enough; omega⟩
    have read := reads b (List.mem_cons_self ..)
    cases others with
    | nil =>
      simp only [List.map_cons, List.map_nil, commaSeparated, readParts,
        read (close :: rest) pos isBoundary]
      simp [bind, Except.bind, skipSpaces_cons apart.1, Cursor.drop]
    | cons next others =>
      have left : (next :: others).length ≤ fuel := by simpa using enough
      have startsLeft := fun b found => starts b (List.mem_cons_of_mem _ found)
      have readsLeft := fun b found => reads b (List.mem_cons_of_mem _ found)
      have start := starts_commaSeparated (List.cons_ne_nil _ _) startsLeft
      have split : commaSeparated ((b :: next :: others).map spell) =
          spell b ++ ',' :: commaSeparated ((next :: others).map spell) := rfl
      rw [split, List.append_assoc, List.cons_append, readParts_comma read apart.2,
        start.append.skipSpaces, ih (List.cons_ne_nil _ _) left startsLeft readsLeft]
      simp
      omega

end Parts

/-! ## Members -/

/-- A key with its colon and the value under it. -/
def writeMember (member : String × Json) : List Char :=
  writeText member.1 ++ ':' :: writeChars member.2

theorem readText_writeText {s : String} :
    readText start [] (s.toList.flatMap writeChar ++ '"' :: rest) (start + 1) =
      .ok (s.toList, ⟨rest, start + (writeText s).length⟩) := by
  rw [readText_flatMap_writeChar]
  simp [writeText]
  omega

theorem writeText_append (s : String) (rest : List Char) :
    writeText s ++ rest = '"' :: (s.toList.flatMap writeChar ++ '"' :: rest) := by
  simp [writeText]

/-- Behind a written key and its colon the value is read. -/
theorem readMember_key {key : String} {value : Cursor → Except Fault (Json × Cursor)} :
    readMember value ⟨writeText key ++ ':' :: text, pos⟩ =
      (value (Cursor.skipSpaces ⟨text, pos + (writeText key).length + 1⟩)).bind fun (v, c) =>
        .ok ((key, v), c) := by
  rw [writeText_append, readMember]
  simp only [readText_writeText, bind, Except.bind, skipSpaces_cons (c := ':') rfl, Cursor.drop,
    List.drop_one, List.tail_cons, String.ofList_toList]

/-- A written member is read as its key and what is read for its value. -/
theorem reads_writeMember {key : String} {value : Cursor → Except Fault (Json × Cursor)}
    (reads : Reads value (writeChars v) w) :
    Reads (readMember value) (writeMember (key, v)) (key, w) := by
  intro rest pos isBoundary
  rw [writeMember, List.append_assoc, List.cons_append, readMember_key,
    (starts_writeChars v).append.skipSpaces, reads _ _ isBoundary]
  simp [Except.bind, Nat.add_assoc, Nat.add_comm 1]

/-! ## Values -/

theorem length_le_writeMember (member : String × Json) :
    (writeChars member.2).length ≤ (writeMember member).length := by
  rw [writeMember, List.length_append, List.length_cons]
  omega

theorem starts_writeMember (member : String × Json) : Starts startsValue (writeMember member) :=
  (starts_writeText member.1).append

theorem writeChars_array :
    writeChars (.array items) = '[' :: (commaSeparated (items.map writeChars) ++ [']']) := by
  rw [writeChars, writeItems_eq_map, List.cons_append]

theorem writeChars_object :
    writeChars (.object fields) =
      '{' :: (commaSeparated ((sortByKey fields).map writeMember) ++ ['}']) := by
  rw [writeChars, writeMembers_eq_map, sortByKey_map, List.map_map]
  rfl

/-- A list within the fuel leaves fuel for its items, in number and in length. -/
theorem room_of_array (enough : (writeChars (.array items)).length ≤ fuel) :
    items.length ≤ fuel ∧ ∀ item ∈ items, (writeChars item).length ≤ fuel := by
  rw [writeChars_array, List.length_cons, List.length_append, List.length_singleton] at enough
  exact room_of_commaSeparated enough

/-- An object within the fuel leaves fuel for its members and the values under them. -/
theorem room_of_object (enough : (writeChars (.object fields)).length ≤ fuel) :
    (sortByKey fields).length ≤ fuel ∧
      ∀ m ∈ sortByKey fields, (writeChars m.2).length ≤ fuel := by
  rw [writeChars_object, List.length_cons, List.length_append, List.length_singleton] at enough
  obtain ⟨count, room⟩ := room_of_commaSeparated enough
  exact ⟨count, fun m found => (length_le_writeMember m).trans (room m found)⟩

/-- What starts no text, list or object is a word or a number. -/
theorem readValue_eq_readAtom (start : Starts startsAtom text) :
    readValue fuel depth ⟨text, pos⟩ = readAtom ⟨text, pos⟩ := by
  obtain ⟨c, cs, rfl, atom⟩ := start
  have apart := fun d => ne_of_startsAtom (d := d) atom
  rw [readValue.eq_def]
  simp only
  split
  · contradiction
  · exact absurd (List.cons.inj ‹_›).1 (apart '"' rfl)
  · exact absurd (List.cons.inj ‹_›).1 (apart '[' rfl)
  · exact absurd (List.cons.inj ‹_›).1 (apart '{' rfl)
  · rfl

/-- Behind the bracket of a list that is not empty stand its items. -/
theorem readValue_bracket (start : Starts startsValue text) :
    readValue fuel (depth + 1) ⟨'[' :: text, pos⟩ =
      (readParts ']' (readValue fuel depth) fuel [] ⟨text, pos + 1⟩).bind fun (items, c) =>
        .ok (.array items, c) := by
  have skip : Cursor.skipSpaces ⟨text, pos + 1⟩ = ⟨text, pos + 1⟩ := start.skipSpaces
  obtain ⟨c, cs, rfl, first⟩ := start
  rw [readValue.eq_def]
  simp only [Cursor.drop, List.drop_one, List.tail_cons, skip]
  split
  · exact absurd (List.cons.inj ‹_›).1 (startsValue_cases first).2.1
  · rfl

/-- Behind the brace of an object that is not empty stand its members. -/
theorem readValue_brace (start : Starts startsValue text) :
    readValue fuel (depth + 1) ⟨'{' :: text, pos⟩ =
      (readParts '}' (readMember (readValue fuel depth)) fuel [] ⟨text, pos + 1⟩).bind
        fun (members, c) => .ok (.object (Fields.ofPairs members), c) := by
  have skip : Cursor.skipSpaces ⟨text, pos + 1⟩ = ⟨text, pos + 1⟩ := start.skipSpaces
  obtain ⟨c, cs, rfl, first⟩ := start
  rw [readValue.eq_def]
  simp only [Cursor.drop, List.drop_one, List.tail_cons, skip]
  split
  · exact absurd (List.cons.inj ‹_›).1 (startsValue_cases first).2.2.1
  · rfl

/-- A list is read if its items are. -/
theorem reads_array (enough : (writeChars (.array items)).length ≤ fuel)
    (reads : ∀ item ∈ items, (writeChars item).length ≤ fuel →
      Reads (readValue fuel depth) (writeChars item) item.sorted) :
    Reads (readValue fuel (depth + 1)) (writeChars (.array items)) (sorted (.array items)) := by
  intro rest pos _
  obtain ⟨count, room⟩ := room_of_array enough
  rw [writeChars_array, List.cons_append, List.append_assoc, List.singleton_append]
  by_cases empty : items = []
  · rw [empty]
    rfl
  have starts := fun item (_ : item ∈ items) => starts_writeChars item
  rw [readValue_bracket (starts_commaSeparated empty starts).append,
    readParts_commaSeparated (by simp [Boundary]) (by decide) empty count starts
      fun item found => reads item found (room item found)]
  simp [Except.bind, Nat.add_comm 1, Nat.add_assoc]

/-- An object is read if the values under its keys are. -/
theorem reads_object (distinct : HasDistinctKeys fields)
    (enough : (writeChars (.object fields)).length ≤ fuel)
    (reads : ∀ m ∈ fields, (writeChars m.2).length ≤ fuel →
      Reads (readValue fuel depth) (writeChars m.2) m.2.sorted) :
    Reads (readValue fuel (depth + 1)) (writeChars (.object fields)) (sorted (.object fields)) := by
  intro rest pos _
  obtain ⟨count, room⟩ := room_of_object enough
  rw [writeChars_object, List.cons_append, List.append_assoc, List.singleton_append]
  by_cases empty : sortByKey fields = []
  · rw [sorted_object, empty]
    rfl
  have starts := fun m (_ : m ∈ sortByKey fields) => starts_writeMember m
  rw [readValue_brace (starts_commaSeparated empty starts).append,
    readParts_commaSeparated (by simp [Boundary]) (by decide) empty count starts
      fun m found => reads_writeMember (reads m (mem_sortByKey.mp found) (room m found))]
  -- Members are collected again after reading; nothing is lost, because their keys are distinct.
  simp only [sorted_object, Except.bind, List.reverse_nil, List.nil_append,
    Fields.ofPairs_eq_self (hasDistinctKeys_sorted distinct)]
  simp [Nat.add_comm 1, Nat.add_assoc]

/-- The reader takes exactly what was written for a value. -/
theorem reads_writeChars (regular : Regular depth v) (writable : v.isWritable)
    (enough : (writeChars v).length ≤ fuel) :
    Reads (readValue fuel depth) (writeChars v) v.sorted := by
  -- The nesting is used up by one bracket after another, so the induction is on regularity; the
  -- fuel stays the same, and only bounds the parts between two brackets.
  induction regular with
  | null => exact fun rest pos _ => readValue_eq_readAtom ⟨'n', _, rfl, rfl⟩
  | bool b =>
    intro rest pos _
    cases b with
    | true => exact readValue_eq_readAtom ⟨'t', _, rfl, rfl⟩
    | false => exact readValue_eq_readAtom ⟨'f', _, rfl, rfl⟩
  | int n =>
    intro rest pos isBoundary
    have short : isShort n := writable
    rw [writeChars, readValue_eq_readAtom (starts_toString_int n).append,
      readAtom_int isBoundary.endsNumber, if_pos short]
    rfl
  | real x =>
    intro rest pos isBoundary
    rw [writeChars, readValue_eq_readAtom (starts_render x).append,
      readAtom_real isBoundary.endsNumber]
    rfl
  | text s =>
    intro rest pos _
    rw [writeChars, writeText_append, readValue.eq_def]
    simp only [readText_writeText, bind, Except.bind, String.ofList_toList]
    rfl
  | array _ ih =>
    rw [isWritable_array, List.all_eq_true] at writable
    exact reads_array enough fun item found => ih item found (writable item found)
  | object distinct _ ih =>
    rw [isWritable_object, List.all_eq_true] at writable
    exact reads_object distinct enough fun m found => ih m found (writable m found)

/-- A written value is read as the value with its members in order. -/
theorem read_write (regular : Regular maxDepth v) (writable : v.isWritable) :
    read v.write = .ok v.sorted := by
  have start := starts_writeChars v
  have reads := reads_writeChars regular writable le_rfl [] 0 (by simp [Boundary])
  rw [List.append_nil] at reads
  rw [read, write, String.toList_ofList, readDocument, if_neg start.noMark, start.skipSpaces,
    reads]
  rfl

/-- A written document is read as the document with its members in order. -/
theorem readFields_write (regular : Regular maxDepth (.object fields))
    (writable : isWritable (.object fields)) :
    readFields (write (.object fields)) = (sortByKey fields).map fun m => (m.1, sorted m.2) := by
  rw [readFields, read_write regular writable, sorted_object]

end BattleMaps.Json
