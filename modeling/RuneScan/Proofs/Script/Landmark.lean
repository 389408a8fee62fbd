import RuneScan.Proofs.Cursor.Accept
import RuneScan.Proofs.Cursor.Inquiry
import RuneScan.Script.Look

/-! Passing all of a landmark and skipping up to the next one complement each other. -/

namespace RuneScan

namespace Cursor

/-- A walk ends where nothing is left, or else at a place to stop at. -/
theorem walkUntil_ends (stops : Cursor → Bool) (cursor : Cursor) (moved : Bool) :
    (cursor.walkUntil stops moved).reached.atEnd = true ∨
      stops (cursor.walkUntil stops moved).reached = true := by
  -- The walk steps over one rune after another.
  fun_induction walkUntil stops cursor moved with
  | case1 cursor moved ended => simpa using ended
  -- A step over a rune fails only at the end.
  | case2 cursor moved _ stuck => exact Or.inl (atEnd_iff_rest.mpr (next?_eq_none_iff.mp stuck))
  | case3 cursor moved _ next stepped ih => exact ih

end Cursor

namespace Script

/-- Whether a move succeeds, and where it leads. -/
structure Outcome where
  /-- Whether it succeeds. -/
  succeeded : Bool
  /-- Where it leads. -/
  reached : Cursor
  deriving DecidableEq

/-- The outcome of a move, without what it was told on the way. -/
def Move.outcome (move : Move) (cursor : Cursor) : Outcome :=
  let arrival := move.run cursor
  ⟨arrival.response.answer.succeeded, arrival.cursor⟩

/-- The outcome of a step that either leads on or stays. -/
def Outcome.ofStep (start : Cursor) (step : Option Cursor) : Outcome :=
  ⟨step.isSome, step.getD start⟩

/-- A move goes on while a condition holds, and it succeeds if the condition holds at first. -/
structure Outcome.GoesWhile (goes : Cursor → Bool) (start : Cursor) (outcome : Outcome) :
    Prop where
  /-- It succeeds where the condition holds. -/
  succeeded_eq : outcome.succeeded = goes start
  /-- Where it ends, the condition does not hold any more. -/
  ended : goes outcome.reached = false
  /-- It passes bytes exactly if it succeeds. -/
  exists_skip : ∃ count, outcome.reached = start.skip count ∧ (0 < count ↔ goes start = true)

/-- A step that skips bytes succeeds if these are any. -/
theorem Outcome.ofStep_progress?_skip (start : Cursor) (count : Nat) :
    Outcome.ofStep start (start.progress? (start.skip count)) =
      ⟨decide (0 < count), start.skip count⟩ := by
  -- Where it fails, it has skipped nothing.
  rw [ofStep, Cursor.isSome_progress?_skip, Cursor.getD_progress?_skip]

/-- A loop that moves on while a condition holds is one that succeeds if it makes progress. -/
theorem Outcome.goesWhile_ofStep {goes : Cursor → Bool} {start last : Cursor} {count : Nat}
    (skips : last = start.skip count) (stays : goes start = false → last = start)
    (ended : goes last = false) :
    (Outcome.ofStep start (start.progress? last)).GoesWhile goes start := by
  subst skips
  -- If it has moved the condition held, and if the condition held it does not stand where it began.
  have further : 0 < count ↔ goes start = true := by
    constructor
    · intro positive
      rw [← Bool.not_eq_false]
      intro fails
      have places := congrArg Cursor.offset (stays fails)
      rw [Cursor.offset_skip] at places
      omega
    · intro holds
      apply Nat.pos_of_ne_zero
      rintro rfl
      rw [Cursor.skip_zero, holds] at ended
      contradiction
  rw [Outcome.ofStep_progress?_skip]
  refine ⟨?_, ended, count, rfl, further⟩
  rw [Bool.eq_iff_iff, decide_eq_true_iff, further]

namespace Outcome.GoesWhile

variable {goes : Cursor → Bool} {start : Cursor} {outcome : Outcome}

/-- Where the condition does not hold, the move fails and stays. -/
theorem eq_of_not (goesOn : outcome.GoesWhile goes start) (fails : goes start = false) :
    outcome = ⟨false, start⟩ := by
  -- No bytes are passed, which is to say that the move stays.
  obtain ⟨count, skips, further⟩ := goesOn.exists_skip
  rw [fails] at further
  have still : count = 0 := by simpa using further
  rw [still, Cursor.skip_zero] at skips
  rw [← skips, ← fails, ← goesOn.succeeded_eq]

/-- No move leaves more bytes. -/
theorem remaining_le (goesOn : outcome.GoesWhile goes start) :
    outcome.reached.remaining ≤ start.remaining := by
  -- Bytes are skipped, if only none.
  obtain ⟨count, skips, _⟩ := goesOn.exists_skip
  rw [skips, Cursor.remaining_skip]
  omega

/-- Where the condition holds and something is left, the move leaves fewer bytes. -/
theorem remaining_lt (goesOn : outcome.GoesWhile goes start) (holds : goes start = true)
    (more : start.atEnd = false) : outcome.reached.remaining < start.remaining := by
  -- Bytes are passed, and there are some to pass.
  obtain ⟨count, skips, further⟩ := goesOn.exists_skip
  have positive := further.mpr holds
  have left := List.length_pos_iff.mpr (Cursor.atEnd_eq_false_iff.mp more)
  rw [Cursor.length_rest] at left
  rw [skips, Cursor.remaining_skip]
  omega

/--
Moves that go on while the cursor is at something, and while it is not, exclude each other.

Where something is left, one of the two succeeds.
-/
theorem complement {isAt : Cursor → Bool} {passed skipped : Outcome}
    (passes : passed.GoesWhile isAt start)
    (skips : skipped.GoesWhile (fun place => !(place.atEnd || isAt place)) start)
    (away : start.atEnd = true → isAt start = false) :
    (passed.succeeded || skipped.succeeded) = (!start.atEnd) ∧
      (passed.succeeded && skipped.succeeded) = false := by
  -- Whether they succeed is told by the two conditions.
  rw [passes.succeeded_eq, skips.succeeded_eq]
  cases ended : start.atEnd with
  | true => simp [away ended]
  | false => cases isAt start <;> simp

end Outcome.GoesWhile

/-- Something that a cursor may stand at, and that can be passed or skipped up to. -/
inductive Landmark where
  /-- A text with something in it. -/
  | exactly (text : String) (filled : text ≠ "")
  /-- A rune out of a set. -/
  | oneOf (set : String)
  /-- A rune with a property. -/
  | having (holds : Char → Bool)

namespace Landmark

/-- Looks whether the cursor stands at the landmark. -/
def look : Landmark → Look
  | .exactly text _ => .sees (.exactly text)
  | .oneOf set => .sees (.oneOf set)
  | .having holds => .seesBy (.ofPred holds)

/-- Passes the landmark once. -/
def pass : Landmark → Move
  | .exactly text _ => .accept (.exactly text)
  | .oneOf set => .accept (.oneOf set)
  | .having holds => .acceptBy (.ofPred holds)

/-- Passes the landmark as often as it follows. -/
def passMany : Landmark → Move
  | .exactly text _ => .acceptMany (.exactly text)
  | .oneOf set => .acceptMany (.oneOf set)
  | .having holds => .acceptManyBy (.ofPred holds)

/-- Skips up to the landmark. -/
def skipTo : Landmark → Move
  | .exactly text _ => .skipToText text
  | .oneOf set => .skipToOneOf set
  | .having holds => .skipUntilBy (.ofPred holds)

/-- Whether the cursor stands at the landmark. -/
def isAt (landmark : Landmark) (cursor : Cursor) : Bool :=
  -- Looking changes nothing, so the answer is all there is to it.
  (landmark.look.run cursor).answer.succeeded

/-- The cursor behind the landmark, if it stands at one. -/
def behind? (cursor : Cursor) : Landmark → Option Cursor
  | .exactly text _ => cursor.accept? (.exactly text)
  | .oneOf set => cursor.accept? (.oneOf set)
  | .having holds => (cursor.acceptBy? (.ofPred holds) []).result

/-- The cursor behind the landmark, as often as it follows. -/
def behindAll (cursor : Cursor) : Landmark → Cursor
  | .exactly text _ => cursor.passAll (.exactly text)
  | .oneOf set => cursor.passAll (.oneOf set)
  | .having holds => (cursor.passWhile (.ofPred holds) []).result

variable (landmark : Landmark) (cursor : Cursor)

/-- The cursor is at the landmark exactly where it can pass it. -/
theorem isAt_eq : landmark.isAt cursor = (landmark.behind? cursor).isSome := by
  -- To see something is to be able to accept it.
  cases landmark with
  | exactly text filled => exact Cursor.sees_exactly_eq cursor text
  | oneOf set => exact Cursor.sees_oneOf_eq cursor set
  | having holds => exact Cursor.seesBy_result_eq cursor (.ofPred holds) []

/-- Behind the landmark, fewer bytes are left. -/
theorem behind?_remaining_lt {landmark : Landmark} {cursor next : Cursor}
    (passed : landmark.behind? cursor = some next) : next.remaining < cursor.remaining := by
  -- A text has something in it, and a rune takes up bytes.
  cases landmark with
  | exactly text filled => exact Cursor.accept?_remaining_lt (by simpa [Pattern.isEmpty]) passed
  | oneOf set => exact Cursor.accept?_remaining_lt rfl passed
  | having holds => exact Cursor.acceptBy?_remaining_lt passed

/--
Induction over the passes of a landmark, one behind the other.

What holds of every place where none can be passed, and of each other place if it holds behind the
landmark there, holds of all places.
-/
theorem passes_induction {motive : Cursor → Prop} (landmark : Landmark)
    (stop : ∀ cursor, landmark.behind? cursor = none → motive cursor)
    (step : ∀ cursor next, landmark.behind? cursor = some next → motive next → motive cursor)
    (cursor : Cursor) : motive cursor := by
  -- The induction is on the bytes that are left, of which each pass takes some.
  induction remains : cursor.remaining using Nat.strongRecOn generalizing cursor with
  | ind remaining ih =>
    cases passed : landmark.behind? cursor with
    | none => exact stop cursor passed
    | some next =>
      have fewer := behind?_remaining_lt passed
      exact step cursor next passed (ih _ (by omega) next rfl)

/-- A cursor at the end is at no landmark. -/
theorem isAt_of_atEnd (ended : cursor.atEnd = true) : landmark.isAt cursor = false := by
  rw [isAt_eq]
  cases passed : landmark.behind? cursor with
  | none => rfl
  | some next =>
    -- No fewer bytes can be left behind it.
    have fewer := behind?_remaining_lt passed
    rw [(Cursor.atEnd_iff cursor).mp ended] at fewer
    contradiction

/-- Where the landmark cannot be passed, the cursor stays. -/
theorem behindAll_stop {landmark : Landmark} {cursor : Cursor}
    (stuck : landmark.behind? cursor = none) : landmark.behindAll cursor = cursor := by
  -- Each of the three loops ends where its step fails.
  cases landmark with
  | exactly text filled => exact Cursor.passAll_stop stuck
  | oneOf set => exact Cursor.passAll_stop stuck
  | having holds => exact congrArg Inquiry.result (Cursor.passWhile_stop stuck)

/-- Elsewhere it is passed once, and then as often as it still follows. -/
theorem behindAll_step {landmark : Landmark} {cursor next : Cursor}
    (passed : landmark.behind? cursor = some next) :
    landmark.behindAll cursor = landmark.behindAll next := by
  -- Each of the three loops goes on behind its step, since fewer bytes are left there.
  have fewer := behind?_remaining_lt passed
  cases landmark with
  | exactly text filled => exact (Cursor.passAll_step passed).trans (if_pos fewer)
  | oneOf set => exact (Cursor.passAll_step passed).trans (if_pos fewer)
  | having holds =>
    -- What was asked before makes no difference to where the walk ends.
    rw [behindAll, Cursor.passWhile_step passed rfl, behindAll,
      Cursor.passWhile_ofPred holds next _ false, Cursor.passWhile_ofPred holds next [] false]

/-- Behind the landmark as often as it follows, it does not follow any more. -/
theorem isAt_behindAll : landmark.isAt (landmark.behindAll cursor) = false := by
  -- The induction follows the passes, behind the last of which there is none to make.
  induction cursor using passes_induction landmark with
  | stop cursor stuck => rw [behindAll_stop stuck, isAt_eq, stuck, Option.isSome_none]
  | step cursor next passed ih => rwa [behindAll_step passed]

/-- Where the cursor is at no landmark, none is passed. -/
theorem behindAll_of_not_isAt (away : landmark.isAt cursor = false) :
    landmark.behindAll cursor = cursor := by
  -- Where it cannot be seen, it cannot be passed.
  rw [isAt_eq, Option.isSome_eq_false_iff, Option.isNone_iff_eq_none] at away
  exact behindAll_stop away

/-- Passing the landmark as often as it follows is to skip bytes. -/
theorem exists_behindAll_eq_skip : ∃ count, landmark.behindAll cursor = cursor.skip count := by
  -- Each of the three loops skips bytes of what is left.
  cases landmark with
  | exactly text filled =>
    obtain ⟨count, _, skips⟩ := Cursor.exists_passAll_eq cursor.rest (.exactly text)
    exact ⟨count, skips cursor rfl⟩
  | oneOf set =>
    obtain ⟨count, _, skips⟩ := Cursor.exists_passAll_eq cursor.rest (.oneOf set)
    exact ⟨count, skips cursor rfl⟩
  | having holds =>
    obtain ⟨count, _, _, skips⟩ := Cursor.exists_passWhile_eq cursor.rest (.ofPred holds) []
    exact ⟨count, congrArg Inquiry.result (skips cursor rfl)⟩

/-- Passing the landmark once leads behind it. -/
theorem outcome_pass :
    landmark.pass.outcome cursor = .ofStep cursor (landmark.behind? cursor) := by
  -- The answer of each of the three moves is a flag.
  cases landmark <;> rfl

/-- Passing the landmark as often as it follows succeeds if that makes progress. -/
theorem outcome_passMany :
    landmark.passMany.outcome cursor =
      .ofStep cursor (cursor.progress? (landmark.behindAll cursor)) := by
  -- The answer of each of the three moves is a flag.
  cases landmark <;> rfl

/-- Skipping up to the landmark leads to where a walk stops at it. -/
theorem outcome_skipTo :
    landmark.skipTo.outcome cursor =
      .ofStep cursor (cursor.progress? (cursor.walk landmark.isAt).reached) := by
  -- The search by bytes comes to the same place as the walk.
  cases landmark with
  | exactly text filled => exact congrArg (Outcome.ofStep cursor) (cursor.skipToText?_eq text)
  | oneOf set => exact congrArg (Outcome.ofStep cursor) (cursor.skipToOneOf?_eq set)
  | having holds =>
    -- Where something is left, the answer is about the rune that stands there.
    have agrees : ∀ place : Cursor, place.atEnd = false →
        (Landmark.having holds).isAt place = holds place.rune := by
      intro place more
      show (place.seesBy (.ofPred holds) []).result = holds place.rune
      rw [Cursor.seesBy, if_neg (by simp [more])]
      rfl
    show Outcome.ofStep cursor (cursor.skipUntilBy? (.ofPred holds)).result = _
    rw [Cursor.skipUntilBy?, Cursor.passUntil_ofPred agrees cursor [] false]
    rfl

/-- Passing the landmark as often as it follows goes on while the cursor is at it. -/
theorem passMany_goesWhile :
    (landmark.passMany.outcome cursor).GoesWhile landmark.isAt cursor := by
  -- The loop stays where it is not at the landmark, and ends where it is not.
  rw [outcome_passMany]
  obtain ⟨count, skips⟩ := landmark.exists_behindAll_eq_skip cursor
  exact Outcome.goesWhile_ofStep skips (landmark.behindAll_of_not_isAt cursor)
    (landmark.isAt_behindAll cursor)

/-- Skipping up to the landmark goes on while something is left and the cursor is not at it. -/
theorem skipTo_goesWhile :
    (landmark.skipTo.outcome cursor).GoesWhile
      (fun place => !(place.atEnd || landmark.isAt place)) cursor := by
  -- The walk stays where it has to stop, and ends where it has to.
  rw [outcome_skipTo]
  obtain ⟨count, walked⟩ := Cursor.exists_walkUntil_eq_skip landmark.isAt cursor false
  apply Outcome.goesWhile_ofStep (congrArg Cursor.Walk.reached walked)
  · intro stops
    rw [Bool.not_eq_false', Bool.or_eq_true] at stops
    rw [Cursor.walkUntil_stop false stops]
  · rw [Bool.not_eq_false', Bool.or_eq_true]
    exact Cursor.walkUntil_ends landmark.isAt cursor false

/-- Passes the landmark as often as it follows and skips up to it, in one order or the other. -/
def turn (landmark : Landmark) (skipsFirst : Bool) (cursor : Cursor) : Cursor :=
  -- The second move is made where the first one leads.
  if skipsFirst then (landmark.passMany.outcome (landmark.skipTo.outcome cursor).reached).reached
  else (landmark.skipTo.outcome (landmark.passMany.outcome cursor).reached).reached

/-- Where something is left, the two moves together pass some of it. -/
theorem remaining_turn_lt (skipsFirst : Bool) {cursor : Cursor} (more : cursor.atEnd = false) :
    (landmark.turn skipsFirst cursor).remaining < cursor.remaining := by
  have passes := landmark.passMany_goesWhile
  have skips := landmark.skipTo_goesWhile
  have skipped : landmark.isAt cursor = false →
      (landmark.skipTo.outcome cursor).reached.remaining < cursor.remaining :=
    fun away => (skips cursor).remaining_lt (by simp [more, away]) more
  have passed : landmark.isAt cursor = true →
      (landmark.passMany.outcome cursor).reached.remaining < cursor.remaining :=
    fun here => (passes cursor).remaining_lt here more
  -- One of the two moves passes bytes from here, and the other one passes none.
  rw [turn]
  cases here : landmark.isAt cursor with
  | true =>
    cases skipsFirst with
    | true =>
      -- Skipping stays, and it is passed then.
      rw [if_pos rfl, (skips cursor).eq_of_not (by simp [here])]
      exact passed here
    | false =>
      rw [if_neg Bool.false_ne_true]
      exact Nat.lt_of_le_of_lt (skips _).remaining_le (passed here)
  | false =>
    cases skipsFirst with
    | true =>
      rw [if_pos rfl]
      exact Nat.lt_of_le_of_lt (passes _).remaining_le (skipped here)
    | false =>
      -- Passing stays, and it is skipped up to then.
      rw [if_neg Bool.false_ne_true, (passes cursor).eq_of_not here]
      exact skipped here

/-- Makes both moves over and over, while something is left. -/
def alternate (landmark : Landmark) (skipsFirst : Bool) (cursor : Cursor) : Cursor :=
  if _ : cursor.atEnd = false then
    landmark.alternate skipsFirst (landmark.turn skipsFirst cursor)
  else cursor
termination_by cursor.remaining
decreasing_by exact landmark.remaining_turn_lt skipsFirst ‹_›

/-- The loop over both moves comes to the end. -/
theorem atEnd_alternate (skipsFirst : Bool) :
    (landmark.alternate skipsFirst cursor).atEnd = true := by
  -- The loop is left only where nothing is left.
  fun_induction alternate landmark skipsFirst cursor with
  | case1 cursor more ih => exact ih
  | case2 cursor ended => simpa using ended

/--
Passing a landmark as often as it follows and skipping up to the next one complement each other.

Where something is left exactly one of the two succeeds, and made once more it fails and stays. The
loop that makes both while something is left, in either order, comes to the end.
-/
theorem passes_or_skips (landmark : Landmark) (cursor : Cursor) :
    let passed := landmark.passMany.outcome cursor
    let skipped := landmark.skipTo.outcome cursor
    (passed.succeeded || skipped.succeeded) = (!cursor.atEnd) ∧
      (passed.succeeded && skipped.succeeded) = false ∧
      landmark.isAt passed.reached = false ∧
      (skipped.reached.atEnd || landmark.isAt skipped.reached) = true ∧
      landmark.passMany.outcome passed.reached = ⟨false, passed.reached⟩ ∧
      landmark.skipTo.outcome skipped.reached = ⟨false, skipped.reached⟩ ∧
      ∀ skipsFirst, (landmark.alternate skipsFirst cursor).atEnd = true := by
  intro passed skipped
  -- Each of the two goes on while a condition holds, and the conditions exclude each other.
  have passes := landmark.passMany_goesWhile cursor
  have skips := landmark.skipTo_goesWhile cursor
  obtain ⟨either, never⟩ := passes.complement skips (landmark.isAt_of_atEnd cursor)
  refine ⟨either, never, passes.ended, ?_, ?_, ?_, landmark.atEnd_alternate cursor⟩
  · rw [← Bool.not_eq_false']
    exact skips.ended
  · exact (landmark.passMany_goesWhile _).eq_of_not passes.ended
  · exact (landmark.skipTo_goesWhile _).eq_of_not skips.ended

end Landmark

end Script

end RuneScan
