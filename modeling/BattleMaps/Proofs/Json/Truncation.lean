import BattleMaps.Proofs.Json.Characters
import BattleMaps.Proofs.Success

/-!
# Values cut short

A text, a list or an object ends with a mark of its own, so what is left of it after a cut is not
read at all. A number that is cut short may still be a number, but then the reader stops at the end
or at a character that numbers are spelled with; neither a comma nor a bracket stands there, and
whatever the number is a part of is not read either.

## Main definitions

* `IsCut` — whether something is missing at the end of a text
* `Fails` — whether a reader yields nothing
* `Stuck` — whether a reader stops where no list and no object goes on

## Main results

* `fails_readText_of_isCut` — a text without its closing quote is not read
* `stuck_readValue_of_isCut` — nor is anything that a value cut short is a part of
* `fails_read_of_isCut` — an object that is cut short is not read
-/

namespace BattleMaps.Json

variable {α : Type} {depth fuel start pos n : Nat} {done p cs text : List Char} {c : Char}
  {v : Json} {fields : Fields}

/-- Whether something is missing at the end of a text. -/
def IsCut (p text : List Char) : Prop := p <+: text ∧ p ≠ text

/-- Whether a reader yields nothing. -/
def Fails {ε : Type} (result : Except ε α) : Prop := ∃ e, result = .error e

/-- Whether a reader yields nothing, or stops at the end or within a number. -/
def Stuck (result : Except Fault (α × Cursor)) : Prop :=
  ∀ a c, result = .ok (a, c) → ∀ d ∈ c.chars.head?, isAtomChar d

theorem Fails.stuck {result : Except Fault (α × Cursor)} (h : Fails result) : Stuck result := by
  obtain ⟨e, rfl⟩ := h
  exact nofun

theorem Fails.bind {β : Type} {result : Except Fault α} (h : Fails result)
    (next : α → Except Fault β) : Fails (result >>= next) := by
  obtain ⟨e, rfl⟩ := h
  exact ⟨e, rfl⟩

/-! ## Cuts -/

theorem prefix_append_cases {l : List Char} (h : p <+: l ++ text) :
    IsCut p l ∨ ∃ q, p = l ++ q ∧ q <+: text := by
  rcases List.prefix_or_prefix_of_prefix h (List.prefix_append l text) with short | ⟨q, rfl⟩
  · by_cases whole : p = l
    · exact .inr ⟨[], by simp [whole], List.nil_prefix⟩
    · exact .inl ⟨short, whole⟩
  · exact .inr ⟨q, rfl, (List.prefix_append_right_inj l).mp h⟩

/-- A cut goes through the first part of a text or through what stands behind it. -/
theorem IsCut.append_cases {l : List Char} (h : IsCut p (l ++ text)) :
    IsCut p l ∨ ∃ q, p = l ++ q ∧ IsCut q text := by
  rcases prefix_append_cases h.1 with cut | ⟨q, rfl, short⟩
  · exact .inl cut
  · refine .inr ⟨q, rfl, short, ?_⟩
    rintro rfl
    exact h.2 rfl

theorem IsCut.cons_cases (h : IsCut p (c :: cs)) : p = [] ∨ ∃ q, p = c :: q ∧ IsCut q cs := by
  rcases List.prefix_cons_iff.mp h.1 with rfl | ⟨q, rfl, short⟩
  · exact .inl rfl
  · refine .inr ⟨q, rfl, short, ?_⟩
    rintro rfl
    exact h.2 rfl

/-- Without its last character a text is all that a cut can leave. -/
theorem IsCut.of_append_singleton (h : IsCut p (text ++ [c])) : p <+: text :=
  (List.prefix_concat_iff.mp h.1).resolve_left h.2

theorem IsCut.eq_nil_of_singleton (h : IsCut p [c]) : p = [] := by
  have cut : IsCut p ([] ++ [c]) := h
  exact List.prefix_nil.mp cut.of_append_singleton

theorem IsCut.length_lt (h : IsCut p text) : p.length < text.length := by
  by_contra long
  exact h.2 (h.1.eq_of_length_le (not_lt.mp long))

theorem IsCut.shorten {q : List Char} (h : IsCut p text) (short : q <+: p) : IsCut q text := by
  refine ⟨short.trans h.1, ?_⟩
  rintro rfl
  exact h.length_lt.not_ge short.length_le

/-! ## Texts -/

theorem fails_readText_nil : Fails (readText start done [] pos) := ⟨_, by rw [readText]⟩

theorem fails_readText_unitEscape (short : p <+: unitEscape n) :
    Fails (readText start done p pos) := by
  -- A numeric escape is taken together with a character behind it, and there is none.
  rw [unitEscape, lower_four, ← List.mem_inits] at short
  simp only [List.inits, List.map_cons, List.map_nil, List.mem_cons, List.not_mem_nil,
    or_false] at short
  rcases short with rfl | rfl | rfl | rfl | rfl | rfl | rfl
  · exact fails_readText_nil
  · exact ⟨_, by rw [readText]⟩
  all_goals exact ⟨.malformed .shortEscape (pos + 1), by simp [readText]⟩

/-- Of two numeric escapes in a row the second is not complete, so the first is read by itself. -/
theorem fails_readText_unitEscape_pair {m : Nat} (small : n < 0x10000)
    (short : p <+: unitEscape n ++ unitEscape m) : Fails (readText start done p pos) := by
  rcases prefix_append_cases short with cut | ⟨q, rfl, second⟩
  · exact fails_readText_unitEscape cut.1
  have few : q.length ≤ 6 := by simpa [unitEscape, lower_four] using second.length_le
  cases q with
  | nil =>
    rw [List.append_nil]
    exact fails_readText_unitEscape (List.prefix_refl _)
  | cons d rest =>
    rw [unitEscape, lower_four]
    simp only [List.cons_append, List.nil_append]
    rw [readText.eq_5]
    · simp only [unit?_lower small]
      exact fails_readText_unitEscape second
    · rintro e f g h i tail rfl rfl
      simp only [List.length_cons] at few
      omega

theorem fails_readText_writeChar (short : p <+: writeChar c) :
    Fails (readText start done p pos) := by
  -- A backslash alone is no escape, and a short escape is read up to the end.
  have escape {letter d : Char} (other : letter ≠ 'u') (known : unescape? letter = some d)
      (short : p <+: ['\\', letter]) : Fails (readText start done p pos) := by
    rw [← List.mem_inits] at short
    simp only [List.inits, List.map_cons, List.map_nil, List.mem_cons, List.not_mem_nil,
      or_false] at short
    rcases short with rfl | rfl | rfl
    · exact fails_readText_nil
    · exact ⟨_, by rw [readText]⟩
    · rw [readText_escape other known]
      exact fails_readText_nil
  unfold writeChar at short
  split_ifs at short with special newline ret tab back feed visible small
  · rcases special with rfl | rfl <;> exact escape (by decide) rfl short
  · exact escape (by decide) rfl short
  · exact escape (by decide) rfl short
  · exact escape (by decide) rfl short
  · exact escape (by decide) rfl short
  · exact escape (by decide) rfl short
  · rcases List.prefix_cons_iff.mp short with rfl | ⟨q, rfl, empty⟩
    · exact fails_readText_nil
    · obtain rfl := List.prefix_nil.mp empty
      rw [readText_plain (fun quote => special (.inl quote)) (fun slash => special (.inr slash))
        visible.1]
      exact fails_readText_nil
  · exact fails_readText_unitEscape short
  · have valid : c.toNat.isValidChar := c.valid
    simp only [Nat.isValidChar] at valid
    exact fails_readText_unitEscape_pair (by omega) short

/-- Without its closing quote a text is not read. -/
theorem fails_readText_of_isCut (cut : IsCut p (cs.flatMap writeChar ++ ['"'])) :
    Fails (readText start done p pos) := by
  have short := cut.of_append_singleton
  clear cut
  induction cs generalizing p done pos with
  | nil =>
    obtain rfl := List.prefix_nil.mp short
    exact fails_readText_nil
  | cons c cs ih =>
    rw [List.flatMap_cons] at short
    rcases prefix_append_cases short with cut | ⟨q, rfl, rest⟩
    · exact fails_readText_writeChar cut.1
    · -- What stands behind a character is what lets the reader take it.
      cases q with
      | nil =>
        rw [List.append_nil]
        exact fails_readText_writeChar (List.prefix_refl _)
      | cons d tail =>
        rw [readText_writeChar]
        exact ih rest

/-! ## Words and numbers -/

theorem exists_drop_of_readNumber_eq_ok {before after : Cursor}
    (h : readNumber before = .ok (v, after)) : ∃ n, after = before.drop n := by
  unfold readNumber at h
  dsimp only at h
  split_ifs at h
  all_goals
    obtain ⟨-, rfl⟩ := Prod.mk.inj (Except.ok.inj h)
    exact ⟨_, rfl⟩

theorem exists_drop_of_readAtom_eq_ok {before after : Cursor}
    (h : readAtom before = .ok (v, after)) : ∃ n, after = before.drop n := by
  unfold readAtom at h
  split at h
  · obtain ⟨-, rfl⟩ := Prod.mk.inj (Except.ok.inj h)
    exact ⟨_, rfl⟩
  · exact exists_drop_of_readNumber_eq_ok h

/-- A word or a number that is cut short is read up to the end or to one of its characters. -/
theorem stuck_readAtom_of_isCut (atom : v.isAtom) (cut : IsCut p (writeChars v)) :
    Stuck (readAtom ⟨p, pos⟩) := by
  intro w after read d head
  obtain ⟨n, rfl⟩ := exists_drop_of_readAtom_eq_ok read
  have left : d ∈ p := List.mem_of_mem_drop (List.mem_of_mem_head? head)
  exact isAtomChar_of_mem_writeChars atom (cut.1.subset left)

/-! ## Parts between commas -/

theorem isSpace_eq_false_of_isAtomChar (atom : isAtomChar c) : isSpace c = false := by
  by_contra space
  simp only [isSpace, Bool.or_eq_true, decide_eq_true_eq, Bool.not_eq_false] at space
  rcases space with ((rfl | rfl) | rfl) | rfl <;> exact absurd atom (by decide)

theorem fails_readValue_nil : Fails (readValue fuel depth ⟨[], pos⟩) := by
  rw [readValue.eq_def]
  exact ⟨_, rfl⟩

theorem skipSpaces_of_isCut (start : Starts startsValue text) (cut : IsCut p text) :
    Cursor.skipSpaces ⟨p, pos⟩ = ⟨p, pos⟩ := by
  obtain ⟨c, cs, rfl, first⟩ := start
  rcases cut.cons_cases with rfl | ⟨q, rfl, -⟩
  · rfl
  · exact skipSpaces_cons (startsValue_cases first).1

section Parts

variable {β : Type} {spell : β → List Char} {meaning : β → α} {parts : List β} {close : Char}
  {part : Cursor → Except Fault (α × Cursor)} {collected : List α} {limit : Nat}

/-- The loop over parts does not go on behind a part that the reader is stuck in. -/
theorem fails_readParts_of_stuck {before : Cursor} (stuck : Stuck (part before))
    (bracket : isAtomChar close = false) :
    Fails (readParts close part fuel collected before) := by
  cases fuel with
  | zero => exact ⟨_, rfl⟩
  | succ fuel =>
    rw [readParts]
    cases read : part before with
    | error e => exact ⟨e, rfl⟩
    | ok result =>
      obtain ⟨a, after⟩ := result
      have atom := stuck a after read
      -- No character of a number is a blank, so the reader stays where it is.
      have still : after.skipSpaces = after := by
        obtain ⟨chars, pos⟩ := after
        cases chars with
        | nil => rfl
        | cons d rest => exact skipSpaces_cons (isSpace_eq_false_of_isAtomChar (atom d rfl))
      have apart {d : Char} (other : isAtomChar d = false) : after.chars.head? ≠ some d := by
        intro head
        exact Bool.noConfusion (other.symm.trans (atom d head))
      simp only [bind, Except.bind, still, if_neg (apart bracket), if_neg (apart (d := ',') rfl)]
      exact ⟨_, rfl⟩

/-- Nor does it go on behind a part at the end of the text. -/
theorem fails_readParts_of_reads {a : α} (reads : Reads part text a)
    (bracket : isAtomChar close = false) :
    Fails (readParts close part fuel collected ⟨text ++ [], pos⟩) := by
  refine fails_readParts_of_stuck ?_ bracket
  rw [reads [] pos (by simp [Boundary])]
  rintro a c ⟨⟩
  simp

/-- A list of parts that is cut short is not read, wherever the cut goes. -/
theorem fails_readParts_of_isCut (bracket : close = ']' ∨ close = '}')
    (cut : IsCut p (commaSeparated (parts.map spell) ++ [close])) (filled : parts ≠ [])
    (enough : p.length ≤ limit) (starts : ∀ b ∈ parts, Starts startsValue (spell b))
    (reads : ∀ b ∈ parts, (spell b).length ≤ limit → Reads part (spell b) (meaning b))
    (stuck : ∀ b ∈ parts, ∀ q pos, IsCut q (spell b) → q.length ≤ limit → Stuck (part ⟨q, pos⟩)) :
    Fails (readParts close part fuel collected ⟨p, pos⟩) := by
  have notAtom : isAtomChar close = false := by rcases bracket with rfl | rfl <;> rfl
  have notComma : close ≠ ',' := by rcases bracket with rfl | rfl <;> decide
  -- Parts before the cut are read as ever; the part that the cut goes through is where it ends.
  induction parts generalizing fuel collected p pos with
  | nil => exact absurd rfl filled
  | cons b others ih =>
    have first := List.mem_cons_self (a := b) (l := others)
    cases others with
    | nil =>
      change IsCut p (spell b ++ [close]) at cut
      rcases cut.append_cases with within | ⟨q, rfl, behind⟩
      · exact fails_readParts_of_stuck (stuck b first p pos within enough) notAtom
      · obtain rfl := behind.eq_nil_of_singleton
        exact fails_readParts_of_reads (reads b first (by simpa using enough)) notAtom
    | cons next others =>
      rw [List.map_cons, List.map_cons, commaSeparated_cons_cons, List.append_assoc,
        List.cons_append] at cut
      rcases cut.append_cases with within | ⟨q, rfl, behind⟩
      · exact fails_readParts_of_stuck (stuck b first p pos within enough) notAtom
      rw [List.length_append] at enough
      have read := reads b first (by omega)
      rcases behind.cons_cases with rfl | ⟨q, rfl, inside⟩
      · exact fails_readParts_of_reads read notAtom
      cases fuel with
      | zero => exact ⟨_, rfl⟩
      | succ fuel =>
        have startsLeft := fun b found => starts b (List.mem_cons_of_mem _ found)
        have start := starts_commaSeparated (List.cons_ne_nil next others) startsLeft
        rw [List.length_cons] at enough
        rw [readParts_comma read notComma, skipSpaces_of_isCut start.append inside]
        exact ih inside (List.cons_ne_nil _ _) (by omega) startsLeft
          (fun b found => reads b (List.mem_cons_of_mem _ found))
          (fun b found => stuck b (List.mem_cons_of_mem _ found))

end Parts

/-! ## Members -/

theorem Stuck.map {β : Type} {result : Except Fault (α × Cursor)} (h : Stuck result) (f : α → β) :
    Stuck (result >>= fun (a, c) => .ok (f a, c)) := by
  intro b after read
  obtain ⟨⟨a, c⟩, taken, same⟩ := bind_eq_ok.mp read
  obtain ⟨-, rfl⟩ := Prod.mk.inj (Except.ok.inj same)
  exact h a c taken

theorem stuck_readMember_of_isCut {key : String} {limit : Nat}
    {value : Cursor → Except Fault (Json × Cursor)} (cut : IsCut p (writeMember (key, v)))
    (enough : p.length ≤ limit)
    (stuck : ∀ q pos, IsCut q (writeChars v) → q.length ≤ limit → Stuck (value ⟨q, pos⟩)) :
    Stuck (readMember value ⟨p, pos⟩) := by
  rw [writeMember] at cut
  rcases cut.append_cases with within | ⟨q, rfl, behind⟩
  · -- the key is cut short
    rcases within.cons_cases with rfl | ⟨q, rfl, inside⟩
    · exact Fails.stuck ⟨_, rfl⟩
    · exact (Fails.bind (fails_readText_of_isCut inside) _).stuck
  rcases behind.cons_cases with rfl | ⟨r, rfl, inside⟩
  · rw [writeText_append, readMember]
    simp only [readText_writeText, bind, Except.bind]
    exact Fails.stuck ⟨_, rfl⟩
  · rw [List.length_append, List.length_cons] at enough
    rw [readMember_key, skipSpaces_of_isCut (starts_writeChars v) inside]
    exact (stuck r _ inside (by omega)).map (Prod.mk _)

/-! ## Values -/

/-- Behind an opening bracket something has to stand. -/
theorem fails_readValue_bracket : Fails (readValue fuel (depth + 1) ⟨['['], pos⟩) := by
  rw [readValue.eq_def]
  exact Fails.bind (fails_readParts_of_stuck fails_readValue_nil.stuck rfl) _

theorem fails_readValue_brace : Fails (readValue fuel (depth + 1) ⟨['{'], pos⟩) := by
  have noKey : Fails (readMember (readValue fuel depth) ⟨[], pos + 1⟩) := ⟨_, rfl⟩
  rw [readValue.eq_def]
  exact Fails.bind (fails_readParts_of_stuck noKey.stuck rfl) _

theorem IsCut.starts {kind : Char → Bool} (h : IsCut p text) (start : Starts kind text) :
    p = [] ∨ Starts kind p := by
  obtain ⟨c, cs, rfl, first⟩ := start
  rcases h.cons_cases with rfl | ⟨q, rfl, -⟩
  · exact .inl rfl
  · exact .inr ⟨c, q, rfl, first⟩

theorem fails_readValue_text {s : String} (cut : IsCut p (writeText s)) :
    Fails (readValue fuel depth ⟨p, pos⟩) := by
  rcases cut.cons_cases with rfl | ⟨q, rfl, inside⟩
  · exact fails_readValue_nil
  · rw [readValue.eq_def]
    exact Fails.bind (fails_readText_of_isCut inside) _

/-- A list that is cut short is not read. -/
theorem fails_readValue_array {items : List Json} (regular : Regular (depth + 1) (.array items))
    (writable : isWritable (.array items)) (cut : IsCut p (writeChars (.array items)))
    (enough : p.length ≤ fuel)
    (stuck : ∀ item ∈ items, ∀ q pos, IsCut q (writeChars item) → q.length ≤ fuel →
      Stuck (readValue fuel depth ⟨q, pos⟩)) :
    Fails (readValue fuel (depth + 1) ⟨p, pos⟩) := by
  rw [writeChars_array] at cut
  rcases cut.cons_cases with rfl | ⟨q, rfl, inside⟩
  · exact fails_readValue_nil
  rw [List.length_cons] at enough
  by_cases empty : items = []
  · subst empty
    obtain rfl := IsCut.eq_nil_of_singleton inside
    exact fails_readValue_bracket
  have starts := fun item (_ : item ∈ items) => starts_writeChars item
  rcases inside.starts (starts_commaSeparated empty starts).append with rfl | start
  · exact fails_readValue_bracket
  rw [isWritable_array, List.all_eq_true] at writable
  have reads : ∀ item ∈ items, (writeChars item).length ≤ fuel →
      Reads (readValue fuel depth) (writeChars item) item.sorted := by
    intro item found le
    cases regular with
    | array within => exact reads_writeChars (within item found) (writable item found) le
  rw [readValue_bracket start]
  exact Fails.bind
    (fails_readParts_of_isCut (.inl rfl) inside empty (by omega) starts reads stuck) _

/-- An object that is cut short is not read. -/
theorem fails_readValue_object (regular : Regular (depth + 1) (.object fields))
    (writable : isWritable (.object fields)) (cut : IsCut p (writeChars (.object fields)))
    (enough : p.length ≤ fuel)
    (stuck : ∀ m ∈ fields, ∀ q pos, IsCut q (writeChars m.2) → q.length ≤ fuel →
      Stuck (readValue fuel depth ⟨q, pos⟩)) :
    Fails (readValue fuel (depth + 1) ⟨p, pos⟩) := by
  rw [writeChars_object] at cut
  rcases cut.cons_cases with rfl | ⟨q, rfl, inside⟩
  · exact fails_readValue_nil
  rw [List.length_cons] at enough
  by_cases empty : sortByKey fields = []
  · rw [empty] at inside
    obtain rfl := IsCut.eq_nil_of_singleton inside
    exact fails_readValue_brace
  have starts := fun m (_ : m ∈ sortByKey fields) => starts_writeMember m
  rcases inside.starts (starts_commaSeparated empty starts).append with rfl | start
  · exact fails_readValue_brace
  rw [isWritable_object, List.all_eq_true] at writable
  have reads : ∀ m ∈ sortByKey fields, (writeMember m).length ≤ fuel →
      Reads (readMember (readValue fuel depth)) (writeMember m) (m.1, m.2.sorted) := by
    intro m found le
    have there := mem_sortByKey.mp found
    have short := (length_le_writeMember m).trans le
    cases regular with
    | object _ within =>
      exact reads_writeMember (reads_writeChars (within m there) (writable m there) short)
  have stuckMember : ∀ m ∈ sortByKey fields, ∀ q pos, IsCut q (writeMember m) → q.length ≤ fuel →
      Stuck (readMember (readValue fuel depth) ⟨q, pos⟩) :=
    fun m found q pos cut le =>
      stuck_readMember_of_isCut cut le (stuck m (mem_sortByKey.mp found))
  rw [readValue_brace start]
  exact Fails.bind
    (fails_readParts_of_isCut (.inr rfl) inside empty (by omega) starts reads stuckMember) _

theorem stuck_readValue_of_isAtom (atom : v.isAtom) (cut : IsCut p (writeChars v))
    (start : Starts startsAtom (writeChars v)) : Stuck (readValue fuel depth ⟨p, pos⟩) := by
  rcases cut.starts start with rfl | start
  · exact fails_readValue_nil.stuck
  · rw [readValue_eq_readAtom start]
    exact stuck_readAtom_of_isCut atom cut

/-- Behind a value that is cut short no list and no object goes on. -/
theorem stuck_readValue_of_isCut (regular : Regular depth v) (writable : v.isWritable)
    (cut : IsCut p (writeChars v)) (enough : p.length ≤ fuel) :
    Stuck (readValue fuel depth ⟨p, pos⟩) := by
  induction regular generalizing p pos with
  | null => exact stuck_readValue_of_isAtom rfl cut ⟨'n', _, rfl, rfl⟩
  | bool b => exact stuck_readValue_of_isAtom rfl cut (by cases b <;> exact ⟨_, _, rfl, rfl⟩)
  | int n =>
    refine stuck_readValue_of_isAtom rfl cut ?_
    rw [writeChars]
    exact starts_toString_int n
  | real x =>
    refine stuck_readValue_of_isAtom rfl cut ?_
    rw [writeChars]
    exact starts_render x
  | text s =>
    rw [writeChars] at cut
    exact (fails_readValue_text cut).stuck
  | array inside ih =>
    have writableItem := List.all_eq_true.mp (isWritable_array.symm.trans writable)
    exact (fails_readValue_array (.array inside) writable cut enough fun item found q pos cut le =>
      ih item found (writableItem item found) cut le).stuck
  | object distinct inside ih =>
    have writableValue := List.all_eq_true.mp (isWritable_object.symm.trans writable)
    exact (fails_readValue_object (.object distinct inside) writable cut enough
      fun m found q pos cut le => ih m found (writableValue m found) cut le).stuck

/-- An object that is cut short is not read. -/
theorem fails_read_of_isCut (regular : Regular maxDepth (.object fields))
    (writable : isWritable (.object fields)) (cut : IsCut p (writeChars (.object fields))) :
    Fails (read (String.ofList p)) := by
  have writableValue := List.all_eq_true.mp (isWritable_object.symm.trans writable)
  have noMark : ¬ (p.head? == some '\uFEFF') := by
    rcases cut.starts (starts_writeChars _) with rfl | start
    · exact Bool.false_ne_true
    · exact start.noMark
  obtain ⟨e, failed⟩ : Fails (readValue p.length maxDepth ⟨p, 0⟩) := by
    cases regular with
    | object distinct inside =>
      exact fails_readValue_object (.object distinct inside) writable cut le_rfl
        fun m found q pos cut le =>
          stuck_readValue_of_isCut (inside m found) (writableValue m found) cut le
  rw [read, String.toList_ofList, readDocument, if_neg noMark,
    skipSpaces_of_isCut (starts_writeChars _) cut, failed]
  exact ⟨_, rfl⟩

end BattleMaps.Json
