import RuneScan.Proofs.Cursor.Stride
import RuneScan.Proofs.Script.Invariant

/-! A move goes forward by bytes of the rest, and it succeeds exactly if it passes some. -/

namespace RuneScan.Script

open Cursor (Strides)

/-- The same answer, with another offset in its report of a demand that was not met. -/
def Answer.reportedAt (offset : Nat) : Answer → Answer
  | .demand (.error mismatch) => .demand (.error { mismatch with offset := offset })
  | answer => answer

/-- The same response, with another offset in its report of a demand that was not met. -/
def Response.reportedAt (offset : Nat) (response : Response) : Response :=
  { response with answer := response.answer.reportedAt offset }

/-- Whether an answer says that a move has failed. -/
def Answer.refuses : Answer → Bool
  | .flag held => !held
  | .demand outcome => !outcome.isOk
  -- A move that gives bytes has none to give at the end, or where it is asked for none.
  | .bytes given => given.isEmpty
  | _ => false

/-- Whether a move is over no bytes at all, so that it succeeds without passing any. -/
def Move.asksNothing : Move → Bool
  | .advance count => count == 0
  | .accept pattern | .require pattern => pattern.isEmpty
  -- A rune takes up at least one byte, and a set matches no fewer.
  | _ => false

/--
What a move comes to wherever the same rest is left.

The offset of the cursor is told by the report of a demand that was not met, and by nothing else.
-/
structure Move.Comes (move : Move) (view : Bytes) (response : Response) (count : Nat) : Prop where
  /-- No more is passed than is left. -/
  within : count ≤ view.length
  /-- A move over nothing passes nothing. -/
  idle : move.asksNothing = true → count = 0
  /-- Every other move fails exactly if it passes nothing. -/
  refuses_iff : response.answer.refuses = true ↔ count = 0 ∧ move.asksNothing = false
  /-- What the move answers, and where it leads. -/
  run_eq : ∀ start : Cursor, start.rest = view →
    move.run start = ⟨response.reportedAt start.offset, start.skip count⟩

/-- What a move comes to if its answer is a no exactly where it has no stride to make. -/
theorem Move.comes_of_strides {move : Move} {view : Bytes} {step : Cursor → Option Cursor}
    {stride : Option Nat} {response : Response}
    (strides : Strides view move.asksNothing step stride)
    (refuses : response.answer.refuses = stride.isNone)
    (run_eq : ∀ start : Cursor, start.rest = view →
      move.run start = ⟨response.reportedAt start.offset, (step start).getD start⟩) :
    move.Comes view response (stride.getD 0) := by
  -- A step that fails passes nothing, and one that succeeds passes its stride.
  have idle_iff := strides.idle_iff
  refine ⟨?_, ?_, ?_, ?_⟩
  · cases stride with
    | none => exact Nat.zero_le _
    | some count => exact strides.within count rfl
  · intro idle
    rw [idle_iff.mpr idle]
    rfl
  · rw [refuses, Bool.eq_false_iff, ne_eq, ← idle_iff]
    cases stride <;> simp
  · intro start left
    rw [run_eq start left, strides.step_eq start left]
    cases stride <;> rfl

/-- What an all-or-nothing step comes to as a move. -/
theorem Move.comes_of_ofStep {move : Move} {view : Bytes} {step : Cursor → Option Cursor}
    {stride : Option Nat} (strides : Strides view move.asksNothing step stride)
    (run_eq : ∀ start, move.run start = .ofStep start (step start)) :
    ∃ response count, move.Comes view response count := by
  -- The answer says whether the step is made.
  refine ⟨.ofAnswer (.flag stride.isSome), _, Move.comes_of_strides strides ?_ ?_⟩
  · cases stride <;> rfl
  · intro start left
    rw [run_eq, Arrival.ofStep, strides.step_eq start left, Option.isSome_map]
    rfl

/-- What a step that asks a query comes to as a move. -/
theorem Move.comes_of_ofInquiry {move : Move} {view : Bytes}
    {step : Cursor → Inquiry (Option Cursor)} {stride : Option Nat} {runes : List Char}
    (strides : Strides view move.asksNothing (fun start => (step start).result) stride)
    (heard : ∀ start : Cursor, start.rest = view → (step start).asked = runes)
    (run_eq : ∀ start, move.run start = .ofInquiry start (step start)) :
    ∃ response count, move.Comes view response count := by
  -- The runes that are asked about are the same wherever the same is left.
  refine ⟨.ofInquiry ⟨.flag stride.isSome, runes⟩, _, Move.comes_of_strides strides ?_ ?_⟩
  · cases stride <;> rfl
  · intro start left
    have stepped : (step start).result = stride.map start.skip := strides.step_eq start left
    rw [run_eq, Arrival.ofInquiry, heard start left, stepped, Option.isSome_map]
    rfl

/-- What a demand for a step comes to as a move, with the rune that it gives if it gives one. -/
theorem Move.comes_of_ofDemand {move : Move} {view : Bytes} {step : Cursor → Option Cursor}
    {stride : Option Nat} (expected : String) (given : Option Char) (asked : Option (List Char))
    (strides : Strides view move.asksNothing step stride)
    (run_eq : ∀ start : Cursor, start.rest = view → move.run start =
      let arrival := Arrival.ofDemand start
        ((start.demand expected (step start)).map fun next => (given, next))
      ⟨⟨arrival.response.answer, asked⟩, arrival.cursor⟩) :
    ∃ response count, move.Comes view response count := by
  -- What stands at the cursor is told from what is left.
  have encounter : ∀ start : Cursor, start.rest = view →
      start.encounter = (Cursor.ofBytes view).encounter := by
    intro start left
    exact Cursor.encounter_congr (by rw [left, Cursor.rest_ofBytes])
  -- The report of a fresh cursor is the report at any other, but for the offset in it.
  refine ⟨⟨.demand (if stride.isSome then .ok given
    else .error ⟨expected, (Cursor.ofBytes view).encounter, 0⟩), asked⟩, _,
    Move.comes_of_strides strides ?_ ?_⟩
  · cases stride <;> rfl
  · intro start left
    rw [run_eq start left, strides.step_eq start left]
    cases stride with
    | none =>
      rw [← encounter start left]
      rfl
    | some count => rfl

/-- What every move comes to depends on what is left where it is made. -/
theorem Move.exists_comes (move : Move) (view : Bytes) :
    ∃ response count, move.Comes view response count := by
  -- The rune that a demand gives is told from what is left.
  have standing : ∀ start : Cursor, start.rest = view → start.rune = (Cursor.ofBytes view).rune :=
    fun start left => Cursor.rune_congr (by rw [left, Cursor.rest_ofBytes])
  cases move with
  | advance count => exact Move.comes_of_ofStep (Cursor.strides_advance? view count) fun _ => rfl
  | advanceOver rune =>
    have strides := Cursor.strides_advance? view rune.utf8Size
    rw [beq_false_of_ne (Nat.ne_of_gt rune.utf8Size_pos)] at strides
    exact Move.comes_of_ofStep strides fun _ => rfl
  | next => exact Move.comes_of_ofStep (Cursor.strides_next? view) fun _ => rfl
  | take count =>
    -- It gives bytes also at the end, though none.
    refine ⟨.ofAnswer (.bytes (view.take count)), (view.take count).length, ?_, ?_, ?_, ?_⟩
    · rw [List.length_take]
      exact Nat.min_le_right ..
    · exact fun idle => absurd idle Bool.false_ne_true
    · simp [Answer.refuses, Response.ofAnswer, Move.asksNothing]
    · rintro start rfl
      rfl
  | accept pattern =>
    obtain ⟨_, strides⟩ := Cursor.exists_strides_accept? view pattern
    exact Move.comes_of_ofStep strides fun _ => rfl
  | acceptMany pattern =>
    obtain ⟨_, strides⟩ := Cursor.exists_strides_acceptMany? view pattern
    exact Move.comes_of_ofStep strides fun _ => rfl
  | acceptBlank =>
    obtain ⟨_, _, strides, _⟩ := Cursor.exists_strides_acceptBy? view (.ofPred Unicode.isBlank) []
    exact Move.comes_of_ofStep strides fun _ => rfl
  | acceptBlanks =>
    obtain ⟨_, _, strides, _⟩ := Cursor.exists_strides_acceptManyBy? view (.ofPred Unicode.isBlank)
    exact Move.comes_of_ofStep strides fun _ => rfl
  | acceptBy query =>
    obtain ⟨_, _, strides, heard⟩ := Cursor.exists_strides_acceptBy? view query []
    exact Move.comes_of_ofInquiry strides heard fun _ => rfl
  | acceptManyBy query =>
    obtain ⟨_, _, strides, heard⟩ := Cursor.exists_strides_acceptManyBy? view query
    exact Move.comes_of_ofInquiry strides heard fun _ => rfl
  | skipUntilBy query =>
    obtain ⟨_, _, strides, heard⟩ := Cursor.exists_strides_skipUntilBy? view query
    exact Move.comes_of_ofInquiry strides heard fun _ => rfl
  | skipToText text =>
    obtain ⟨_, strides⟩ := Cursor.exists_strides_skipToText? view text
    exact Move.comes_of_ofStep strides fun _ => rfl
  | skipToOneOf set =>
    obtain ⟨_, strides⟩ := Cursor.exists_strides_skipToOneOf? view set
    exact Move.comes_of_ofStep strides fun _ => rfl
  | require pattern =>
    obtain ⟨_, strides⟩ := Cursor.exists_strides_accept? view pattern
    refine Move.comes_of_ofDemand pattern.describe none none strides ?_
    intro start _
    -- The step that is demanded decides what is reported.
    rw [Move.run, Cursor.require]
    cases start.accept? pattern <;> rfl
  | requireOneOf set =>
    obtain ⟨_, strides⟩ := Cursor.exists_strides_accept? view (.oneOf set)
    refine Move.comes_of_ofDemand (Pattern.oneOf set).describe (Cursor.ofBytes view).rune none
      strides ?_
    intro start left
    rw [Move.run, Cursor.requireOneOf, Cursor.require, standing start left]
    cases start.accept? (.oneOf set) <;> rfl
  | requireBy query expected =>
    obtain ⟨_, runes, strides, heard⟩ := Cursor.exists_strides_acceptBy? view query []
    refine Move.comes_of_ofDemand expected (Cursor.ofBytes view).rune runes strides ?_
    intro start left
    rw [Move.run, Cursor.requireBy, heard start left, standing start left]
    cases (start.acceptBy? query []).result <;> rfl

/-- A move skips bytes that are left, if it is to any other place at all. -/
theorem Move.exists_run_eq_skip (move : Move) (start : Cursor) :
    ∃ count ≤ start.remaining, (move.run start).cursor = start.skip count := by
  -- It is what the move comes to.
  obtain ⟨response, count, comes⟩ := Move.exists_comes move start.rest
  have within := comes.within
  rw [Cursor.length_rest] at within
  exact ⟨count, within, congrArg Arrival.cursor (comes.run_eq start rfl)⟩

section Keeps

variable {fine : Step → Bool}

/-- Every step leads from places in their buffers to places in their buffers. -/
theorem keeps_inBuffer : Step.Keeps fine Cursor.InBuffer := by
  -- No move passes more than is left.
  refine ⟨?_, fun _ _ _ => Nat.zero_le _⟩
  intro start what _ inside
  obtain ⟨count, within, reached⟩ := what.exists_run_eq_skip start
  rw [reached]
  exact inside.skip within

/-- What is so of every buffer that steps open is so of the buffers where they lead. -/
theorem keeps_of_buffer (holds : Bytes → Prop)
    (opens : ∀ name buffer, fine (.place name buffer) = true → holds buffer) :
    Step.Keeps fine (fun cursor => holds cursor.buffer) := by
  -- No move changes to another buffer.
  refine ⟨?_, opens⟩
  intro start what _ now
  obtain ⟨count, _, reached⟩ := what.exists_run_eq_skip start
  rw [reached]
  exact now

end Keeps

end RuneScan.Script
