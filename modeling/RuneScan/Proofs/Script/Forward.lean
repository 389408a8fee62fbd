import RuneScan.Proofs.Cursor.Boundary
import RuneScan.Proofs.Script.Stride

/-! Moves consume the buffer from the front, each of them all or nothing. -/

namespace RuneScan

namespace Cursor

/-- What is skipped and what is left then make up what was left before. -/
theorem since_skip_append_rest {start : Cursor} {count : Nat} (within : count ≤ start.remaining) :
    (start.skip count).since start ++ (start.skip count).rest = start.rest := by
  -- The bytes are cut in two.
  rw [since_skip within, rest_skip, List.take_append_drop]

/-- As many bytes are skipped as the skip counts. -/
theorem length_since_skip {start : Cursor} {count : Nat} (within : count ≤ start.remaining) :
    ((start.skip count).since start).length = count := by
  -- There are enough of them.
  rw [since_skip within, List.length_take, length_rest, Nat.min_eq_left within]

end Cursor

namespace Script

/-- Whether an answer says that a move has failed does not depend on the offset in a report. -/
theorem Answer.refuses_reportedAt (answer : Answer) (offset : Nat) :
    (answer.reportedAt offset).refuses = answer.refuses := by
  -- A report of a demand that was not met is still one.
  cases answer with
  | demand outcome => cases outcome <;> rfl
  | _ => rfl

/-- A move that comes to something fails, or passes bytes, or is over none. -/
theorem Move.Comes.cases {move : Move} {view : Bytes} {response : Response} {count : Nat}
    (comes : move.Comes view response count) :
    response.answer.refuses = true ∧ count = 0 ∧ move.asksNothing = false ∨
      response.answer.refuses = false ∧ 0 < count ∧ move.asksNothing = false ∨
      response.answer.refuses = false ∧ count = 0 ∧ move.asksNothing = true := by
  have refuses_iff := comes.refuses_iff
  cases idle : move.asksNothing with
  | true =>
    rw [idle] at refuses_iff
    have stays := comes.idle idle
    right; right
    simpa [stays] using refuses_iff
  | false =>
    rw [idle] at refuses_iff
    by_cases stays : count = 0
    · left
      simpa [stays] using refuses_iff
    · right; left
      simpa [stays, Nat.pos_of_ne_zero stays] using refuses_iff

/-- A move consumes bytes from the front of what is left, or fails, unless it is over none. -/
structure Move.Consumes (move : Move) (start : Cursor) (arrival : Arrival) : Prop where
  /-- It stays in its buffer. -/
  buffer_eq : arrival.cursor.buffer = start.buffer
  /-- The bytes passed and those left make up what was left before. -/
  since_append_rest : arrival.cursor.since start ++ arrival.cursor.rest = start.rest
  /-- The offset grows by as many bytes as were passed. -/
  offset_eq : arrival.cursor.offset = start.offset + (arrival.cursor.since start).length
  /-- It fails and stays, or it passes bytes, or it is over none, succeeds and stays. -/
  outcome :
    arrival.response.answer.refuses = true ∧ arrival.cursor = start ∧ move.asksNothing = false ∨
      arrival.response.answer.refuses = false ∧ start.offset < arrival.cursor.offset ∧
        move.asksNothing = false ∨
      arrival.response.answer.refuses = false ∧ arrival.cursor = start ∧ move.asksNothing = true

/-- Every move consumes bytes from the front of what is left, or fails, unless it is over none. -/
theorem Move.consumes (move : Move) (start : Cursor) : move.Consumes start (move.run start) := by
  -- What it comes to is a number of bytes that it skips, and the offset makes no difference to it.
  obtain ⟨response, count, comes⟩ := Move.exists_comes move start.rest
  have within := comes.within
  rw [Cursor.length_rest] at within
  have answers : (response.reportedAt start.offset).answer.refuses = response.answer.refuses := by
    rw [Response.reportedAt, Answer.refuses_reportedAt]
  rw [comes.run_eq start rfl]
  refine ⟨rfl, Cursor.since_skip_append_rest within, ?_, ?_⟩
  · rw [Cursor.length_since_skip within, Cursor.offset_skip]
  · rw [answers, Cursor.offset_skip]
    rcases comes.cases with
      ⟨refused, rfl, asks⟩ | ⟨accepted, positive, asks⟩ | ⟨accepted, rfl, idle⟩
    · exact Or.inl ⟨refused, Cursor.skip_zero start, asks⟩
    · exact Or.inr (Or.inl ⟨accepted, Nat.lt_add_of_pos_right positive, asks⟩)
    · exact Or.inr (Or.inr ⟨accepted, Cursor.skip_zero start, idle⟩)

/-- The cursor after the step that a report is about. -/
def Report.reached : Report → Cursor
  | .single _ reached => reached
  | .capture _ reached _ _ => reached
  | .group _ reached _ => reached

/-- The bytes that each of several steps in a row has passed, as their reports tell. -/
def stretches (start : Cursor) : List Report → List Bytes
  | [] => []
  -- Each step begins where the one before it has ended.
  | report :: later => report.reached.since start :: stretches report.reached later

/-- Moves in a row skip the bytes that they pass one after another. -/
theorem exists_run_moves (session : Session) (moves : List Move) :
    ∃ count ≤ session.cursor.remaining,
      (run session (moves.map .move)).session.cursor = session.cursor.skip count ∧
        (stretches session.cursor (run session (moves.map .move)).report).flatten =
          session.cursor.rest.take count := by
  -- The induction is on the moves, each of which finds what the one before it has left.
  induction moves generalizing session with
  | nil => exact ⟨0, Nat.zero_le _, rfl, rfl⟩
  | cons move moves ih =>
    obtain ⟨count, within, arrives⟩ := move.exists_run_eq_skip session.cursor
    obtain ⟨more, laterWithin, reached, passed⟩ := ih (session.goTo (session.cursor.skip count))
    simp only [Session.goTo] at laterWithin reached passed
    rw [Cursor.remaining_skip] at laterWithin
    rw [Cursor.skip_skip] at reached
    rw [Cursor.rest_skip] at passed
    refine ⟨count + more, by omega, ?_, ?_⟩
    · rw [List.map_cons, run, Step.run, arrives]
      exact reached
    · rw [List.map_cons, run, Step.run, arrives, stretches, List.flatten_cons, Report.reached,
        Session.goTo, passed, Cursor.since_skip within, ← List.take_add]

/-- A run of moves passes what its moves pass, one after another, and reports on each of them. -/
theorem run_moves (session : Session) (moves : List Move) :
    let ran := run session (moves.map .move)
    ran.session.cursor.buffer = session.cursor.buffer ∧ ran.report.length = moves.length ∧
      (stretches session.cursor ran.report).flatten = ran.session.cursor.since session.cursor := by
  intro ran
  -- The moves skip bytes of one buffer, and what they skip is what was passed since the beginning.
  obtain ⟨count, within, reached, passed⟩ := exists_run_moves session moves
  rw [reached, passed, Cursor.since_skip within]
  exact ⟨rfl, by rw [length_report_run, List.length_map], rfl⟩

/-- From the beginning of a buffer, a run of moves passes all of it up to the offset. -/
theorem run_moves_start (buffer : Bytes) (moves : List Move) :
    let ran := run (Session.start buffer) (moves.map .move)
    (stretches (Cursor.ofBytes buffer) ran.report).flatten =
      buffer.take ran.session.cursor.offset := by
  intro ran
  -- A fresh cursor has all of the buffer before it, and none of it behind.
  obtain ⟨count, _, reached, passed⟩ := exists_run_moves (Session.start buffer) moves
  have fresh : (Session.start buffer).cursor = Cursor.ofBytes buffer := rfl
  rw [fresh] at reached passed
  rw [reached, passed, Cursor.rest_ofBytes, Cursor.offset_skip, Cursor.ofBytes, Nat.zero_add]

/--
Every move consumes bytes from the front of what is left, or fails and stays where it is.

A run of moves reports on each of them, and consumes what they consume, one after another. From the
beginning of a buffer, that is all of it up to the offset.
-/
theorem moves_consume :
    (∀ (start : Cursor) (move : Move), move.Consumes start (move.run start)) ∧
      (∀ (session : Session) (moves : List Move),
        let ran := run session (moves.map .move)
        ran.session.cursor.buffer = session.cursor.buffer ∧ ran.report.length = moves.length ∧
          (stretches session.cursor ran.report).flatten =
            ran.session.cursor.since session.cursor) ∧
      ∀ (buffer : Bytes) (moves : List Move),
        let ran := run (Session.start buffer) (moves.map .move)
        (stretches (Cursor.ofBytes buffer) ran.report).flatten =
          buffer.take ran.session.cursor.offset :=
  -- One move is told by what it comes to, and a run by its moves.
  ⟨fun start move => move.consumes start, run_moves, run_moves_start⟩

end Script

end RuneScan
