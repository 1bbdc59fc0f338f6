import BattleMaps.Proofs.Json.Nesting

/-!
# Values past the limits

Every value can be written, but not all that is written is read again: reading limits the digits of
an integer and the nesting of lists and objects. A written value is well formed, so nothing else can
go wrong with it, and what is within the limits is read. The reader goes from left to right and is
refused at the first part that is past a limit.

## Main definitions

* `Refused` — whether reading ends at a limit
* `Refuses` — whether a reader ends at a limit in a text, whatever may stand behind it

## Main results

* `refused_readParts` — of parts that are read or refused, the first refused one ends the loop
* `refuses_array`, `refuses_object` — a list or an object is refused for what is inside it
* `refuses_writeChars` — a value past a limit is refused
* `refused_read_write_iff` — a written value is refused exactly if it is past a limit
-/

namespace BattleMaps.Json

open Fields (HasDistinctKeys)

variable {α : Type} {depth bound fuel pos : Nat} {v : Json} {items : List Json}
  {fields : Fields} {rest text : List Char}

/-- Whether a fault is one of a limit. -/
def Fault.isLimit : Fault → Bool
  | .malformed _ _ => false
  | .longInteger _ => true
  | .deepNesting _ => true

/-- Whether reading ends at a limit. -/
def Refused (result : Except Fault α) : Prop := ∃ fault, result = .error fault ∧ fault.isLimit

/-- Whether a reader ends at a limit in a text, whatever may stand behind it. -/
def Refuses (reader : Cursor → Except Fault (α × Cursor)) (text : List Char) : Prop :=
  ∀ rest pos, Boundary rest → Refused (reader ⟨text ++ rest, pos⟩)

theorem Refused.bind {β : Type} {result : Except Fault α} (h : Refused result)
    (next : α → Except Fault β) : Refused (result >>= next) := by
  obtain ⟨fault, rfl, limit⟩ := h
  exact ⟨fault, rfl, limit⟩

/-! ## Integers -/

/-- An integer has few enough digits if it is less than the power of ten that has one too many. -/
theorem isShort_iff {n : Int} : isShort n ↔ n.natAbs < 10 ^ Decimal.maxIntegerDigits := by
  rw [isShort, decide_eq_true_eq, ← String.length_toList, Nat.toString_eq_repr, Nat.toList_repr]
  exact Nat.length_toDigits_le_iff (by decide) (by decide)

/-- An integer with too many digits is refused. -/
theorem refuses_int {n : Int} (long : isShort n = false) :
    Refuses (readValue fuel depth) (writeChars (.int n)) := by
  intro rest pos isBoundary
  rw [writeChars, readValue_eq_readAtom (starts_toString_int n).append,
    readAtom_int isBoundary.endsNumber, if_neg (by simp [long])]
  exact ⟨_, rfl, rfl⟩

/-! ## Parts between commas -/

section Parts

variable {β : Type} {spell : β → List Char} {meaning : β → α} {isGood : β → Prop} {parts : List β}
  {close : Char} {part : Cursor → Except Fault (α × Cursor)} {done : List α}

theorem refused_readParts_of_refuses (refuses : Refuses part text) (isBoundary : Boundary rest)
    (enough : 0 < fuel) : Refused (readParts close part fuel done ⟨text ++ rest, pos⟩) := by
  obtain ⟨fuel, rfl⟩ : ∃ left, fuel = left + 1 := ⟨fuel - 1, by omega⟩
  rw [readParts]
  exact (refuses rest pos isBoundary).bind _

/-- Where every part is read or refused, the first refused one ends the loop. -/
theorem refused_readParts (isBoundary : Boundary (close :: rest)) (apart : close ≠ ',')
    (enough : parts.length ≤ fuel) (starts : ∀ b ∈ parts, Starts startsValue (spell b))
    (reads : ∀ b ∈ parts, isGood b → Reads part (spell b) (meaning b))
    (refuses : ∀ b ∈ parts, ¬ isGood b → Refuses part (spell b))
    (past : ∃ b ∈ parts, ¬ isGood b) :
    Refused (readParts close part fuel done
      ⟨commaSeparated (parts.map spell) ++ close :: rest, pos⟩) := by
  induction parts generalizing fuel done pos with
  | nil => simp at past
  | cons b others ih =>
    have first := List.mem_cons_self (a := b) (l := others)
    rw [List.length_cons] at enough
    cases others with
    | nil =>
      obtain ⟨b', found, bad⟩ := past
      obtain rfl := List.mem_singleton.mp found
      exact refused_readParts_of_refuses (refuses b' first bad) isBoundary (by omega)
    | cons next others =>
      have split : commaSeparated ((b :: next :: others).map spell) =
          spell b ++ ',' :: commaSeparated ((next :: others).map spell) := rfl
      rw [split, List.append_assoc, List.cons_append]
      by_cases good : isGood b
      · obtain ⟨fuel, rfl⟩ : ∃ left, fuel = left + 1 := ⟨fuel - 1, by omega⟩
        have startsLeft := fun b found => starts b (List.mem_cons_of_mem _ found)
        have start := starts_commaSeparated (List.cons_ne_nil next others) startsLeft
        have pastLeft : ∃ b ∈ next :: others, ¬ isGood b := by
          obtain ⟨b', found, bad⟩ := past
          rcases List.mem_cons.mp found with rfl | found
          · exact absurd good bad
          · exact ⟨b', found, bad⟩
        rw [readParts_comma (reads b first good) apart, start.append.skipSpaces]
        exact ih (by omega) startsLeft (fun b found => reads b (List.mem_cons_of_mem _ found))
          (fun b found => refuses b (List.mem_cons_of_mem _ found)) pastLeft
      · exact refused_readParts_of_refuses (refuses b first good) (by simp [Boundary]) (by omega)

end Parts

/-! ## Values -/

/-- A key is read before the value under it. -/
theorem refuses_writeMember {key : String} {value : Cursor → Except Fault (Json × Cursor)}
    (refuses : Refuses value (writeChars v)) :
    Refuses (readMember value) (writeMember (key, v)) := by
  intro rest pos isBoundary
  rw [writeMember, List.append_assoc, List.cons_append, readMember_key,
    (starts_writeChars v).append.skipSpaces]
  exact (refuses rest _ isBoundary).bind _

/-- Whether a value is within the limits of a reader that still allows the given nesting. -/
def IsWithin (depth : Nat) (v : Json) : Prop := Regular depth v ∧ v.isWritable

theorem isWithin_array :
    IsWithin (depth + 1) (.array items) ↔ ∀ item ∈ items, IsWithin depth item := by
  rw [IsWithin, isWritable_array, List.all_eq_true]
  refine ⟨fun ⟨regular, writable⟩ item found => ?_, fun inside => ?_⟩
  · cases regular with
    | array inside => exact ⟨inside item found, writable item found⟩
  · exact ⟨.array fun item found => (inside item found).1, fun item found => (inside item found).2⟩

theorem isWithin_object (distinct : HasDistinctKeys fields) :
    IsWithin (depth + 1) (.object fields) ↔ ∀ m ∈ fields, IsWithin depth m.2 := by
  rw [IsWithin, isWritable_object, List.all_eq_true]
  refine ⟨fun ⟨regular, writable⟩ m found => ?_, fun inside => ?_⟩
  · cases regular with
    | object _ inside => exact ⟨inside m found, writable m found⟩
  · exact ⟨.object distinct fun m found => (inside m found).1, fun m found => (inside m found).2⟩

/-- A list or an object is refused where no more nesting is allowed. -/
theorem refused_readValue_zero (opening : text.head? = some '[' ∨ text.head? = some '\x7b') :
    Refused (readValue fuel 0 ⟨text, pos⟩) := by
  rw [readValue.eq_def]
  rcases opening with head | head
  all_goals
    obtain ⟨rest, rfl⟩ := List.head?_eq_some_iff.mp head
    exact ⟨_, rfl, rfl⟩

/-- A list is refused if one of its items is, where those before it are read. -/
theorem refuses_array (enough : (writeChars (.array items)).length ≤ fuel)
    (past : ∃ item ∈ items, ¬ IsWithin depth item)
    (refuses : ∀ item ∈ items, ¬ IsWithin depth item → (writeChars item).length ≤ fuel →
      Refuses (readValue fuel depth) (writeChars item)) :
    Refuses (readValue fuel (depth + 1)) (writeChars (.array items)) := by
  intro rest pos _
  obtain ⟨count, room⟩ := room_of_array enough
  have filled : items ≠ [] := List.ne_nil_of_mem past.choose_spec.1
  have starts := fun item (_ : item ∈ items) => starts_writeChars item
  have reads : ∀ item ∈ items, IsWithin depth item →
      Reads (readValue fuel depth) (writeChars item) item.sorted :=
    fun item found good => reads_writeChars good.1 good.2 (room item found)
  rw [writeChars_array, List.cons_append, List.append_assoc, List.singleton_append,
    readValue_bracket (starts_commaSeparated filled starts).append]
  exact Refused.bind (refused_readParts (by simp [Boundary]) (by decide) count starts reads
    (fun item found bad => refuses item found bad (room item found)) past) _

/-- An object is refused if a value under one of its keys is, where those before it are read. -/
theorem refuses_object (enough : (writeChars (.object fields)).length ≤ fuel)
    (past : ∃ m ∈ fields, ¬ IsWithin depth m.2)
    (refuses : ∀ m ∈ fields, ¬ IsWithin depth m.2 → (writeChars m.2).length ≤ fuel →
      Refuses (readValue fuel depth) (writeChars m.2)) :
    Refuses (readValue fuel (depth + 1)) (writeChars (.object fields)) := by
  intro rest pos _
  obtain ⟨count, room⟩ := room_of_object enough
  have past : ∃ m ∈ sortByKey fields, ¬ IsWithin depth m.2 := by simpa using past
  have filled : sortByKey fields ≠ [] := List.ne_nil_of_mem past.choose_spec.1
  have starts := fun m (_ : m ∈ sortByKey fields) => starts_writeMember m
  have reads : ∀ m ∈ sortByKey fields, IsWithin depth m.2 →
      Reads (readMember (readValue fuel depth)) (writeMember m) (m.1, m.2.sorted) :=
    fun m found good => reads_writeMember (reads_writeChars good.1 good.2 (room m found))
  rw [writeChars_object, List.cons_append, List.append_assoc, List.singleton_append,
    readValue_brace (starts_commaSeparated filled starts).append]
  exact Refused.bind (refused_readParts (by simp [Boundary]) (by decide) count starts reads
    (fun m found bad =>
      refuses_writeMember (refuses m (mem_sortByKey.mp found) bad (room m found))) past) _

/-- A value past a limit is refused. -/
theorem refuses_writeChars (regular : Regular bound v) (past : ¬ IsWithin depth v)
    (enough : (writeChars v).length ≤ fuel) :
    Refuses (readValue fuel depth) (writeChars v) := by
  -- The value is regular for some depth, which need not be the one that is allowed here.
  induction regular generalizing depth with
  | int n => exact refuses_int (by simpa [IsWithin, isWritable, Regular.int] using past)
  | array inside ih =>
    cases depth with
    | zero => exact fun rest pos _ => refused_readValue_zero (.inl (by rw [writeChars_array]; rfl))
    | succ depth =>
      simp only [isWithin_array, not_forall, exists_prop] at past
      exact refuses_array enough past fun item found => ih item found
  | object distinct inside ih =>
    cases depth with
    | zero => exact fun rest pos _ => refused_readValue_zero (.inr (by rw [writeChars_object]; rfl))
    | succ depth =>
      simp only [isWithin_object distinct, not_forall, exists_prop] at past
      exact refuses_object enough past fun m found => ih m found
  | _ => exact absurd ⟨by constructor, rfl⟩ past

/-! ## Whole texts -/

/-- A written value is refused exactly if it is past a limit. -/
theorem refused_read_write_iff (regular : Regular bound v) :
    (∃ e, read v.write = .error e ∧ e.isLimit) ↔ ¬ IsWithin maxDepth v := by
  refine ⟨fun ⟨e, read, _⟩ within => ?_, fun past => ?_⟩
  · rw [read_write within.1 within.2] at read
    contradiction
  · have start := starts_writeChars v
    obtain ⟨fault, refused, limit⟩ :=
      refuses_writeChars regular past le_rfl [] 0 (by simp [Boundary])
    rw [List.append_nil] at refused
    rw [read, write, String.toList_ofList, readDocument, if_neg start.noMark, start.skipSpaces,
      refused]
    refine ⟨_, rfl, ?_⟩
    cases fault with
    | malformed => contradiction
    | longInteger => rfl
    | deepNesting => rfl

end BattleMaps.Json
