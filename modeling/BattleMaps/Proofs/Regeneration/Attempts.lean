import BattleMaps.Proofs.Regeneration.Charges
import BattleMaps.Proofs.Regeneration.FirstAnswer
import Mathlib.Logic.Function.Iterate

/-!
# Attempts

A model that is asked for a grid is asked the same thing again and again, and each time it may
answer something else. The first answer that becomes a map ends the asking. Every answer that came
back is paid for, whatever it is worth, and if none becomes a map, what is reported is what was
wrong with the last one.

## Main definitions

* `Asking` — all that asking for a grid depends on
* `Asking.answer`, `Asking.verdict` — what the model answers to an attempt, and what comes of it
* `Asking.Complaint` — what is reported after attempts that came to nothing

## Main results

* `Asking.askOn_of_failed` — attempts that come to nothing are passed over and paid for
* `judge_error_ne_empty` — an answer that becomes no map is never refused without a word
* `generate_attempts` — what asking for a grid comes to
-/

namespace BattleMaps

/-! ## What is wrong with an answer -/

theorem Json.ReadError.message_ne_empty (e : Json.ReadError) : e.message ≠ "" := by
  unfold message
  cases e <;>
    simp only [toString, ne_eq, String.append_eq_empty_iff, String.reduceEq, and_false, false_and,
      not_false_eq_true]

theorem Violation.message_ne_empty (v : Violation) : v.message ≠ "" := by
  unfold message
  cases v <;>
    simp only [toString, ne_eq, String.append_eq_empty_iff, String.reduceEq, and_false, false_and,
      not_false_eq_true]

theorem Reply.Fault.message_ne_empty (fault : Reply.Fault) : fault.message ≠ "" := by
  cases fault with
  | violation v => exact v.message_ne_empty
  | limit e => exact e.message_ne_empty

/-- An answer that becomes no map is never refused without a word. -/
theorem judge_error_ne_empty {spec : CombatSpec} {encoding : Encoding} {floor : Float}
    {answer why : String} (h : judge spec encoding floor answer = .error why) : why ≠ "" := by
  unfold judge at h
  split at h
  · rename_i fault _
    obtain rfl := Except.error.inj h
    exact fault.message_ne_empty
  · rename_i proposal _
    cases refused : Proposal.accept spec encoding floor proposal with
    | error v =>
      rw [refused] at h
      obtain rfl := Except.error.inj h
      exact v.message_ne_empty
    | ok m =>
      rw [refused] at h
      contradiction

/-! ## Attempts -/

/-- All that asking for a grid depends on: a request that is put to a model again and again, and the
world in which the first attempt finds it. -/
structure Asking (σ κ : Type) where
  services : Services σ κ
  config : Config κ
  spec : CombatSpec
  picture : Option Picture
  start : σ

namespace Asking

variable {σ κ : Type}

def request (a : Asking σ κ) : CompletionRequest := gridRequest a.config a.spec a.picture

/-- The world after a number of attempts. -/
def world (a : Asking σ κ) (n : Nat) : σ :=
  (fun world => (a.services.complete a.request world).2)^[n] a.start

/-- What the model answers when that number of attempts lies behind. -/
def answer (a : Asking σ κ) (n : Nat) : Except Fault (Completion κ) :=
  (a.services.complete a.request (a.world n)).1

/-- What comes of an answer: a map, or the text of what is wrong. -/
def verdict (a : Asking σ κ) (n : Nat) : Except String BattleMap :=
  match a.answer n with
  | .error fault => .error fault.text
  | .ok reply => judge a.spec (approach a.picture).encoding a.config.minWalkable reply.text

/-- The events of the first attempts. -/
def events (a : Asking σ κ) (n : Nat) : List (Event κ) :=
  (List.range n).map fun i => .completed a.request (a.answer i)

/-- How often the model is asked at most. -/
def limit (a : Asking σ κ) : Nat := (max 0 (a.config.retries + 1)).toNat

/-- Whether a text is what is reported after a number of attempts that came to nothing: what was
wrong with the last one, or what was said before the first. -/
def Complaint (a : Asking σ κ) (before : String) : Nat → String → Prop
  | 0, why => why = before
  | n + 1, why => a.verdict n = .error why

variable {a : Asking σ ℚ} {k left asked : Nat} {cost : ℚ} {lastError why : String} {m : BattleMap}

theorem world_succ (a : Asking σ κ) (n : Nat) :
    a.world (n + 1) = (a.services.complete a.request (a.world n)).2 :=
  Function.iterate_succ_apply' ..

theorem complete_world (a : Asking σ κ) (n : Nat) :
    a.services.complete a.request (a.world n) = (a.answer n, a.world (n + 1)) := by
  rw [world_succ]
  rfl

theorem events_succ (a : Asking σ κ) (n : Nat) :
    a.events (n + 1) = a.events n ++ [.completed a.request (a.answer n)] := by
  rw [events, List.range_succ, List.map_append]
  rfl

theorem limit_eq (a : Asking σ κ) : a.limit = a.config.attempts.toNat := by
  rw [limit, Config.attempts]
  omega

/-- Asking as it goes on in the world after a number of attempts. -/
def askOn (a : Asking σ ℚ) (left asked : Nat) (cost : ℚ) (lastError : String) (n : Nat) :
    Done σ ℚ (Except (Exhausted ℚ) (Generated ℚ)) :=
  (askRepeatedly a.services a.config a.spec a.picture left asked cost lastError).run (a.world n)

/-- The first answer that becomes a map is paid for and ends the asking. -/
theorem askOn_of_ok (accepted : a.verdict k = .ok m) :
    a.askOn (left + 1) asked cost lastError k =
      let event := Event.completed a.request (a.answer k)
      ⟨.ok ⟨m, cost + event.completionCharge, approach a.picture, asked + 1⟩, [event],
        a.world (k + 1)⟩ := by
  rw [verdict] at accepted
  rw [askOn, askRepeatedly, ← request]
  simp only [Work.run_bind, Work.run_ask, complete_world]
  cases answered : a.answer k with
  | error fault =>
    rw [answered] at accepted
    contradiction
  | ok reply =>
    rw [answered] at accepted
    simp only [accepted, Work.run_pure, Event.completionCharge, List.append_nil]

/-- An attempt that comes to nothing is paid for, and the next one follows. -/
theorem askOn_of_error (failed : a.verdict k = .error why) :
    a.askOn (left + 1) asked cost lastError k =
      let event := Event.completed a.request (a.answer k)
      let rest := a.askOn left (asked + 1) (cost + event.completionCharge) why (k + 1)
      ⟨rest.result, event :: rest.events, rest.world⟩ := by
  rw [verdict] at failed
  simp only [askOn]
  rw [askRepeatedly, ← request]
  simp only [Work.run_bind, Work.run_ask, complete_world]
  cases answered : a.answer k with
  | error fault =>
    rw [answered] at failed
    obtain rfl := Except.error.inj failed
    simp only [Event.completionCharge, add_zero, List.singleton_append]
  | ok reply =>
    rw [answered] at failed
    simp only [failed, Event.completionCharge, List.singleton_append]

/-- Attempts that come to nothing are passed over: each is paid for, and only what was wrong with
the last one is kept in mind. -/
theorem askOn_of_failed (left : Nat) (lastError : String)
    (failed : ∀ i < k, ∀ m, a.verdict i ≠ .ok m) :
    ∃ why, a.Complaint lastError k why ∧
      a.askOn (k + left) 0 0 lastError 0 =
        let rest := a.askOn left k (completionCharges (a.events k)) why k
        ⟨rest.result, a.events k ++ rest.events, rest.world⟩ := by
  induction k generalizing left with
  | zero => exact ⟨lastError, rfl, by simp [events]⟩
  | succ k ih =>
    obtain ⟨before, -, passed⟩ := ih (left + 1) fun i less => failed i (Nat.lt_succ_of_lt less)
    cases verdict : a.verdict k with
    | ok m => exact absurd verdict (failed k (Nat.lt_succ_self k) m)
    | error why =>
      refine ⟨why, verdict, ?_⟩
      rw [Nat.succ_add_eq_add_succ, passed, askOn_of_error verdict, events_succ]
      simp only [completionCharges_append, completionCharges_cons, completionCharges_nil, add_zero,
        List.append_assoc, List.singleton_append]

end Asking

/-- What asking for a grid comes to, whatever the model answers. The first answer that becomes a
map, if it comes in time, is the last one asked for: all attempts up to it are the same request,
their charges are the cost, and their number is reported. If none comes, the model is asked as often
as allowed, all attempts are paid for, and what was wrong with the last one is reported, or that
there was none; and an answer that came back is never refused without a word. -/
theorem generate_attempts {σ : Type} (a : Asking σ ℚ) :
    let done := (generate a.services a.config a.spec a.picture).run a.start
    (∀ k m, k < a.limit → (∀ i < k, ∀ other, a.verdict i ≠ .ok other) → a.verdict k = .ok m →
      done.events = a.events (k + 1) ∧
        done.result =
          .ok ⟨m, completionCharges (a.events (k + 1)), approach a.picture, k + 1⟩) ∧
    ((∀ i < a.limit, ∀ m, a.verdict i ≠ .ok m) →
      done.events = a.events a.limit ∧
        ∃ lastError, a.Complaint "no attempts made" a.limit lastError ∧
          done.result = .error ⟨(approach a.picture).name, a.config.attempts, lastError,
            completionCharges (a.events a.limit)⟩) ∧
    ∀ i reply why, a.answer i = .ok reply → a.verdict i = .error why → why ≠ "" := by
  have whole : (generate a.services a.config a.spec a.picture).run a.start =
      a.askOn a.limit 0 0 "no attempts made" 0 := by
    rw [generate, Asking.askOn, Asking.limit_eq]
    rfl
  dsimp only
  rw [whole]
  refine ⟨?_, ?_, ?_⟩
  · intro k m inTime failed accepted
    obtain ⟨left, rest⟩ : ∃ left, a.limit = k + (left + 1) := ⟨a.limit - (k + 1), by omega⟩
    obtain ⟨why, -, passed⟩ := Asking.askOn_of_failed (left + 1) "no attempts made" failed
    rw [rest, passed, Asking.askOn_of_ok accepted, Asking.events_succ]
    simp
  · intro failed
    obtain ⟨why, complaint, passed⟩ := Asking.askOn_of_failed 0 "no attempts made" failed
    rw [Nat.add_zero] at passed
    rw [passed, Asking.askOn, askRepeatedly]
    exact ⟨by simp, why, complaint, rfl⟩
  · intro i reply why answered refused
    rw [Asking.verdict, answered] at refused
    exact judge_error_ne_empty refused

/-- Services whose model fails without a word, then says nothing, and from then on proposes the
inn. -/
def wakingServices : Services Nat ℚ where
  complete _ asked :=
    match asked with
    | 0 => (.error ⟨"TimeoutError", ""⟩, 1)
    | 1 => (.ok ⟨"", 1 / 100⟩, 2)
    | _ => (.ok ⟨Proposal.innProposal.write, 2 / 100⟩, asked + 1)
  readsPictures := false
  paint := none
  blobs := none
  now _ := 0

/-- Asking for the inn with some patience. -/
def wakingInn (retries : Int) : Asking Nat ℚ where
  services := wakingServices
  config := { twoAttempts with retries := retries }
  spec := Proposal.innSpec
  picture := none
  start := 0

/-- Three attempts lead to the inn, and the two that were answered are paid for. Two attempts lead
to no map, and the answer that said nothing is to blame. -/
theorem wakingInn_attempts :
    ((generate wakingServices (wakingInn 2).config Proposal.innSpec none).run 0).result =
        .ok ⟨innMap, 3 / 100, .layout, 3⟩ ∧
      ((generate wakingServices (wakingInn 1).config Proposal.innSpec none).run 0).result =
        .error ⟨"text_to_grid", 2, "Response did not contain a JSON object", 1 / 100⟩ := by
  have silent (retries : Int) : (wakingInn retries).verdict 0 = .error "TimeoutError" := rfl
  have empty (retries : Int) :
      (wakingInn retries).verdict 1 = .error "Response did not contain a JSON object" :=
    show judge Proposal.innSpec .extended 0.3 "" = _ by decide +kernel
  have failed (retries : Int) : ∀ i < 2, ∀ m, (wakingInn retries).verdict i ≠ .ok m := by
    intro i less m
    interval_cases i
    · rw [silent]
      simp
    · rw [empty]
      simp
  constructor
  · have accepted : (wakingInn 2).verdict 2 = .ok innMap := judge_innProposal
    have charges : completionCharges ((wakingInn 2).events 3) = 3 / 100 := by decide +kernel
    rw [← charges]
    exact ((generate_attempts (wakingInn 2)).1 2 innMap (by decide) (failed 2) accepted).2
  · have charges : completionCharges ((wakingInn 1).events 2) = 1 / 100 := by decide +kernel
    obtain ⟨-, lastError, complaint, exhausted⟩ := (generate_attempts (wakingInn 1)).2.1 (failed 1)
    obtain rfl : lastError = "Response did not contain a JSON object" :=
      Except.error.inj (complaint.symm.trans (empty 1))
    rw [← charges]
    exact exhausted

end BattleMaps
