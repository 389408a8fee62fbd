import RuneScan.Proofs.Checked.Script
import RuneScan.Proofs.Cursor.Chunks
import RuneScan.Proofs.Script.Forward
import RuneScan.Proofs.Script.Landmark
import RuneScan.Proofs.Utf8.WellFormed

/-! What readings and moves come to is what they come to with machine numbers and slices. -/

namespace RuneScan.Checked

open Script (Landmark Move Outcome Session)

/--
Out of as many bytes as the first one announces, one rune is decoded, and nothing but runes.

Where the bytes break the ranges of well-formed runes, one of them is taken for a replacement.
-/
theorem read_decodes (view : Bytes) :
    ∃ reading, read view = .ok reading ∧
      (∀ rune, Utf8.encodeRune rune <+: view → reading = ⟨rune, rune.utf8Size⟩) ∧
      (∀ first rest, view = first :: rest →
        ((∃ rune, Utf8.encodeRune rune <+: view) ↔ Utf8.BeginsRune first rest) ∧
          (¬ Utf8.BeginsRune first rest → reading = ⟨Utf8.replacement, 1⟩)) ∧
      (reading.width = 0 ↔ view = []) ∧ reading.width ≤ view.length := by
  refine ⟨_, read_eq view, fun _ => Utf8.read_of_encodeRune_prefix, ?_,
    Utf8.read_width_eq_zero_iff, Utf8.read_width_le view⟩
  -- The announced bytes hold a rune exactly where the ranges let one begin.
  rintro first rest rfl
  have ranges := Utf8.exists_encodeRune_prefix_iff first rest
  refine ⟨ranges, fun malformed => ?_⟩
  apply Utf8.read_of_no_encodeRune (List.cons_ne_nil first rest)
  exact fun rune encoded => malformed (ranges.mp ⟨rune, encoded⟩)

/-- Whether a move succeeds, and where it leads. -/
def outcome (start : Cursor) (what : Move) : Checked Outcome := do
  let arrival ← move start what
  return ⟨arrival.response.answer.succeeded, arrival.cursor⟩

/-- Whether the cursor stands at a landmark. -/
def isAt (landmark : Landmark) (cursor : Cursor) : Checked Bool :=
  return (← look cursor landmark.look).answer.succeeded

section Moves

variable {start : Cursor} (fits : start.Fits)
include fits

/-- A move leads to a cursor that fits, and it consumes bytes or fails unless it is over none. -/
theorem move_consumes (what : Move) :
    ∃ arrival, move start what = .ok arrival ∧ arrival.cursor.Fits ∧ what.Consumes start arrival :=
  ⟨_, move_eq fits what, keeps_fits.move start what rfl fits, what.consumes start⟩

/-- Matches by chunks are passed as often as these stand in a row, and a flag tells if there are. -/
theorem exists_move_acceptMany_eq {pattern : Pattern} {kind : Bytes → Prop} {size : Nat}
    (matched : Cursor.MatchesChunks pattern kind size) (filled : 0 < size) :
    ∃ count, start.ExhaustsChunks pattern kind size count ∧
      move start (.acceptMany pattern) =
        .ok ⟨.ofAnswer (.flag (decide (1 ≤ count))), start.skip (count * size)⟩ := by
  -- The flag is set by the first match.
  rw [move_eq fits]
  obtain ⟨count, exhausts, runs⟩ := Cursor.exists_run_acceptMany_eq matched filled start
  exact ⟨count, exhausts, congrArg Except.ok runs⟩

/-- A text with nothing in it is not passed at all. -/
theorem move_acceptMany_of_isEmpty {pattern : Pattern} (empty : pattern.isEmpty = true) :
    move start (.acceptMany pattern) = .ok ⟨.ofAnswer (.flag false), start⟩ := by
  -- It is tested for before the loop is entered, which would not end.
  rw [move_eq fits, Cursor.run_acceptMany_of_isEmpty empty]

/-- Runes are passed up to the first no, and each of them is asked about once, as is that one. -/
theorem exists_move_acceptManyBy_eq (query : Query) :
    ∃ count reached, query.Accepts (Utf8.runes start.rest) count ∧
      start.Passes ((Utf8.runes start.rest).take count) reached ∧
      move start (.acceptManyBy query) =
        .ok ⟨.ofInquiry ⟨.flag (decide (1 ≤ count)), (Utf8.runes start.rest).take (count + 1)⟩,
          reached⟩ := by
  -- The questions that are asked are the same.
  rw [move_eq fits]
  obtain ⟨count, reached, accepts, passes, _, runs⟩ := Move.run_acceptManyBy start query
  exact ⟨count, reached, accepts, passes, congrArg Except.ok runs⟩

/-- Runes are skipped up to the first yes as they are passed up to the first exchanged no. -/
theorem move_skipUntilBy (query : Query) :
    move start (.skipUntilBy query) = move start (.acceptManyBy query.negated) := by
  -- It is so of the moves that both come to.
  rw [move_eq fits, move_eq fits, Move.run_skipUntilBy]

/-- A machine that is asked instead of its query is led through the same runes. -/
theorem exists_move_asks {State : Type} (machine : Machine State) (state : State) :
    ∃ accepted skipped, move start (.acceptManyBy (machine.query state)) = .ok accepted ∧
      move start (.skipUntilBy (machine.query state)) = .ok skipped ∧
      start.passAsking machine true state =
        (accepted.cursor, machine.after state (accepted.response.asked.getD []).reverse) ∧
      start.passAsking machine false state =
        (skipped.cursor, machine.after state (skipped.response.asked.getD []).reverse) :=
  ⟨_, _, move_eq fits _, move_eq fits _, Move.passAsking_eq start machine state⟩

/-- The outcome of a move is the same, and it leads to a cursor that fits. -/
theorem outcome_eq (what : Move) :
    outcome start what = .ok (what.outcome start) ∧ (what.outcome start).reached.Fits := by
  -- It is the arrival without what was told on the way.
  rw [outcome, move_eq fits]
  exact ⟨rfl, keeps_fits.move start what rfl fits⟩

/-- To look for a landmark has no fault. -/
theorem isAt_eq (landmark : Landmark) : isAt landmark start = .ok (landmark.isAt start) := by
  -- Looking has none.
  rw [isAt, look_eq fits]
  rfl

/--
Passing a landmark as often as it follows and skipping up to the next one complement each other.

Where something is left one of the two succeeds, and made once more each of them fails and stays.
-/
theorem outcomes_complement (landmark : Landmark) :
    ∃ passed skipped, outcome start landmark.passMany = .ok passed ∧
      outcome start landmark.skipTo = .ok skipped ∧
      (passed.succeeded || skipped.succeeded) = (!start.atEnd) ∧
      (passed.succeeded && skipped.succeeded) = false ∧
      isAt landmark passed.reached = .ok false ∧
      (skipped.reached.atEnd = true ∨ isAt landmark skipped.reached = .ok true) ∧
      outcome passed.reached landmark.passMany = .ok ⟨false, passed.reached⟩ ∧
      outcome skipped.reached landmark.skipTo = .ok ⟨false, skipped.reached⟩ := by
  -- Both go on while a condition holds, which does not hold any more where they end.
  have passes := landmark.passMany_goesWhile start
  have skips := landmark.skipTo_goesWhile start
  obtain ⟨passed, passedFits⟩ := outcome_eq fits landmark.passMany
  obtain ⟨skipped, skippedFits⟩ := outcome_eq fits landmark.skipTo
  obtain ⟨either, never⟩ := passes.complement skips (landmark.isAt_of_atEnd start)
  refine ⟨_, _, passed, skipped, either, never, ?_, ?_, ?_, ?_⟩
  · rw [isAt_eq passedFits, passes.ended]
  · have stopped := skips.ended
    rw [Bool.not_eq_false', Bool.or_eq_true] at stopped
    exact stopped.imp_right fun here => by rw [isAt_eq skippedFits, here]
  · rw [(outcome_eq passedFits _).1, (landmark.passMany_goesWhile _).eq_of_not passes.ended]
  · rw [(outcome_eq skippedFits _).1, (landmark.skipTo_goesWhile _).eq_of_not skips.ended]

end Moves

/-- Makes both moves, in one order or the other. -/
def turn (landmark : Landmark) (skipsFirst : Bool) (cursor : Cursor) : Checked Cursor := do
  let first ← outcome cursor (if skipsFirst then landmark.skipTo else landmark.passMany)
  let second ← outcome first.reached (if skipsFirst then landmark.passMany else landmark.skipTo)
  return second.reached

/-- Makes both moves over and over, while something is left. -/
def alternate (landmark : Landmark) (skipsFirst : Bool) (cursor : Cursor) : Checked Cursor :=
  if cursor.atEnd then return cursor
  else do
    let next ← turn landmark skipsFirst cursor
    -- A turn that passes nothing would be made for ever.
    if next.remaining < cursor.remaining then alternate landmark skipsFirst next else throw .endless
termination_by cursor.remaining

/-- A turn comes to the same without a fault, and to a cursor that fits. -/
theorem turn_eq {cursor : Cursor} (fits : cursor.Fits) (landmark : Landmark) (skipsFirst : Bool) :
    turn landmark skipsFirst cursor = .ok (landmark.turn skipsFirst cursor) ∧
      (landmark.turn skipsFirst cursor).Fits := by
  -- The second move is made where the first one leads.
  cases skipsFirst with
  | true =>
    obtain ⟨skips, between⟩ := outcome_eq fits landmark.skipTo
    obtain ⟨passes, after⟩ := outcome_eq between landmark.passMany
    refine ⟨?_, after⟩
    simp only [turn, if_true, skips, ok_bind, passes]
    rfl
  | false =>
    obtain ⟨passes, between⟩ := outcome_eq fits landmark.passMany
    obtain ⟨skips, after⟩ := outcome_eq between landmark.skipTo
    refine ⟨?_, after⟩
    simp only [turn, Bool.false_eq_true, if_false, passes, ok_bind, skips]
    rfl

/-- The loop over both moves ends at the end, because each of its turns passes something. -/
theorem exists_alternate_eq {cursor : Cursor} (fits : cursor.Fits) (landmark : Landmark)
    (skipsFirst : Bool) :
    ∃ last, alternate landmark skipsFirst cursor = .ok last ∧ last.atEnd = true := by
  -- The induction follows the turns, behind each of which the cursor still fits.
  fun_induction Landmark.alternate landmark skipsFirst cursor with
  | case1 cursor more ih =>
    obtain ⟨turns, after⟩ := turn_eq fits landmark skipsFirst
    obtain ⟨last, loops, ended⟩ := ih after
    refine ⟨last, ?_, ended⟩
    rw [alternate, if_neg (by simp [more]), turns, ok_bind,
      if_pos (landmark.remaining_turn_lt skipsFirst more), loops]
  | case2 cursor ended =>
    have ended : cursor.atEnd = true := by simpa using ended
    exact ⟨cursor, by rw [alternate, if_pos ended]; rfl, ended⟩

/-- Moves are steps that open no buffer. -/
theorem allEvery_moves (moves : List Move) :
    Script.Step.allEvery opensFitting (moves.map .move) = true := by
  -- Each of them is a step by itself.
  induction moves with
  | nil => rfl
  | cons what moves ih => exact ih

/-- A run of moves passes what its moves pass, one after another, and reports on each of them. -/
theorem exists_run_moves_eq {session : Session} (all : session.All Cursor.Fits)
    (moves : List Move) :
    ∃ ran, run session (moves.map .move) = .ok ran ∧
      ran.session.cursor.buffer = session.cursor.buffer ∧ ran.report.length = moves.length ∧
      (Script.stretches session.cursor ran.report).flatten =
        ran.session.cursor.since session.cursor :=
  ⟨_, run_eq all (allEvery_moves moves), Script.run_moves session moves⟩

/-- From the beginning of a buffer, a run of moves passes all of it up to the offset. -/
theorem exists_run_moves_start_eq (buffer : Bytes) (bounded : buffer.length < 2 ^ 63)
    (moves : List Move) :
    ∃ ran, run (Session.start buffer) (moves.map .move) = .ok ran ∧
      (Script.stretches (Cursor.ofBytes buffer) ran.report).flatten =
        buffer.take ran.session.cursor.offset :=
  -- A cursor at the beginning fits if the buffer does.
  ⟨_, run_eq (Session.All.start ⟨Nat.zero_le _, bounded⟩) (allEvery_moves moves),
    Script.run_moves_start buffer moves⟩

end RuneScan.Checked
