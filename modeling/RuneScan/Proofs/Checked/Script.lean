import RuneScan.Proofs.Checked.Cursor
import RuneScan.Proofs.Script.Stride

/-! Runs that compute with machine numbers and slices never come to a fault. -/

namespace RuneScan

open Cursor (Walk)
open Script (Answer Arrival Look Move Ran Report Response Session Step)

namespace Checked

/-- A line that shows the offset of the cursor and what follows it. -/
def describe (cursor : Cursor) : Checked String := do
  -- Only what is left is taken from the buffer.
  let left := Utf8.lossy (← rest cursor)
  let shown := String.ofList (Text.quoted Text.doubleQuote left.toList)
  return "Cursor \x7b pos: " ++ cursor.offset.repr ++ ", rest: " ++ shown ++ ", .. \x7d"

/-- What a look finds at a cursor. -/
def look (cursor : Cursor) : Look → Checked Response
  | .rest => return .ofAnswer (.bytes (← rest cursor))
  | .remaining => return .ofAnswer (.count (← remaining cursor))
  | .offset => return .ofAnswer (.count cursor.offset)
  | .byte => return .ofAnswer (.count (← byte cursor).toNat)
  | .rune => return .ofAnswer (.rune (← rune cursor))
  | .peek count => return .ofAnswer (.bytes (← peek cursor count))
  | .atEnd => return .ofAnswer (.flag cursor.atEnd)
  | .hasMore => return .ofAnswer (.flag !cursor.atEnd)
  | .atLineEnd => return .ofAnswer (.flag (← atLineEnd cursor))
  | .display => return .ofAnswer (.text (Utf8.lossy (← rest cursor)))
  | .describe => return .ofAnswer (.text (← describe cursor))
  | .encounter => return .ofAnswer (.text (← encounter cursor).describe)
  | .sees pattern => return .ofAnswer (.flag (← sees cursor pattern))
  | .seesBy query => do
    let look ← seesBy cursor query []
    return .ofInquiry ⟨.flag look.result, look.asked⟩

/-- What a walk that asks a query answers as a move, and where it leads. -/
def inquiryArrival (walk : Inquiry Walk) : Arrival :=
  -- The flag of the walk is the answer.
  ⟨.ofInquiry ⟨.flag walk.result.moved, walk.asked⟩, walk.result.reached⟩

/-- Makes a move from a cursor. -/
def move (start : Cursor) : Move → Checked Arrival
  | .advance count => return .ofStep start (← advance? start count)
  | .advanceOver rune => return .ofStep start (← advance? start rune.utf8Size)
  | .next => return .ofStep start (← next? start)
  | .take count => do
    let taken ← take start count
    return ⟨.ofAnswer (.bytes taken.1), taken.2⟩
  | .accept pattern => return .ofStep start (← accept? start pattern)
  | .acceptMany pattern => return (← acceptMany start pattern).arrival
  | .acceptBlank => return .ofStep start (← acceptBy? start (.ofPred Unicode.isBlank) []).result
  | .acceptBlanks => return (← passWhile start (.ofPred Unicode.isBlank) [] false).result.arrival
  | .acceptBy query => return .ofInquiry start (← acceptBy? start query [])
  | .acceptManyBy query => return inquiryArrival (← passWhile start query [] false)
  | .skipToText text => return (← skipToText start text).arrival
  | .skipToOneOf set => return (← skipToOneOf start set).arrival
  | .skipUntilBy query => return inquiryArrival (← passUntil start query [] false)
  | .require pattern => return .ofDemand start ((← require start pattern).map (none, ·))
  | .requireOneOf set => return .ofDemand start ((← requireOneOf start set).map (Prod.map some id))
  | .requireBy query expected => do
    let step ← requireBy start query expected
    let arrival := Arrival.ofDemand start (step.result.map (Prod.map some id))
    return { arrival with response := .ofInquiry ⟨arrival.response.answer, step.asked⟩ }

mutual

/-- Runs one step. -/
def step (session : Session) : Step → Checked (Ran Report)
  | .look what => return ⟨.single (← look session.cursor what) session.cursor, session⟩
  | .move what => do
    let arrival ← move session.cursor what
    return ⟨.single arrival.response arrival.cursor, session.goTo arrival.cursor⟩
  | .save name => return (session.save name session.cursor).tell .nothing
  | .place name buffer => return (session.save name (Cursor.ofBytes buffer)).tell .nothing
  | .revisit name => return (session.goTo (session.mark name)).tell .nothing
  | .since name => return session.tell (.bytes (← since session.cursor (session.mark name)))
  | .textSince name => do
    let passed ← since session.cursor (session.mark name)
    return session.tell (.text (Utf8.lossy passed))
  | .sameAs name => return session.tell (.flag (session.cursor = session.mark name))
  | .capture held inner => do
    let ran ← step session inner
    -- A failed step leaves the text as it was.
    let text ←
      if ran.report.succeeded then Utf8.lossy <$> since ran.session.cursor session.cursor
      else pure held
    return ⟨.capture ran.report.succeeded ran.session.cursor text ran.report, ran.session⟩
  | .allOf steps => do
    let ran ← stepUntil false session steps
    return ⟨.group (ran.report.all (·.succeeded)) ran.session.cursor ran.report, ran.session⟩
  | .anyOf steps => do
    let ran ← stepUntil true session steps
    return ⟨.group (ran.report.any (·.succeeded)) ran.session.cursor ran.report, ran.session⟩

/-- Runs steps in order, up to the first whose success is as given. -/
def stepUntil (success : Bool) (session : Session) : List Step → Checked (Ran (List Report))
  | [] => return ⟨[], session⟩
  | first :: steps => do
    let ran ← step session first
    if ran.report.succeeded == success then return ⟨[ran.report], ran.session⟩
    else
      let later ← stepUntil success ran.session steps
      return ⟨ran.report :: later.report, later.session⟩

end

/-- Runs all steps of a script in order, whether or not they succeed. -/
def run (session : Session) : List Step → Checked (Ran (List Report))
  | [] => return ⟨[], session⟩
  | first :: steps => do
    let ran ← step session first
    let later ← run ran.session steps
    return ⟨ran.report :: later.report, later.session⟩

/-- Every look finds the same without a fault. -/
theorem look_eq {cursor : Cursor} (fits : cursor.Fits) (what : Look) :
    look cursor what = .ok (what.run cursor) := by
  -- Each look takes one thing from the cursor, if any.
  cases what with
  | rest => rw [look, rest_eq fits]; rfl
  | remaining => rw [look, remaining_eq fits]; rfl
  | offset => rfl
  | byte => rw [look, byte_eq fits]; rfl
  | rune => rw [look, rune_eq fits]; rfl
  | peek count => rw [look, peek_eq fits]; rfl
  | atEnd => rfl
  | hasMore => rfl
  | atLineEnd => rw [look, atLineEnd_eq fits]; rfl
  | display => rw [look, rest_eq fits]; rfl
  | describe => rw [look, describe, rest_eq fits]; rfl
  | encounter => rw [look, encounter_eq fits]; rfl
  | sees pattern => rw [look, sees_eq fits]; rfl
  | seesBy query => rw [look, seesBy_eq fits]; rfl

/-- The arrival of a walk that has passed something is that of a step that makes progress. -/
theorem arrival_walked (start : Cursor) (count : Nat) :
    (walked start false (start.skip count)).arrival =
      .ofStep start (start.progress? (start.skip count)) := by
  -- Its flag tells what the step tells by comparing places.
  rw [walked_skip, Cursor.ofStep_progress?_skip, Walk.arrival]

/-- It is so too if a query is asked on the way. -/
theorem inquiryArrival_walked (start : Cursor) (count : Nat) (runes : List Char) :
    inquiryArrival ⟨walked start false (start.skip count), runes⟩ =
      .ofInquiry start ⟨start.progress? (start.skip count), runes⟩ := by
  -- The runes that were asked about go along with either answer.
  rw [walked_skip, Arrival.ofInquiry, Cursor.isSome_progress?_skip, Cursor.getD_progress?_skip,
    inquiryArrival]

/-- Every move comes to the same without a fault. -/
theorem move_eq {start : Cursor} (fits : start.Fits) (what : Move) :
    move start what = .ok (what.run start) := by
  -- The loops tell by a flag what the moves tell by comparing places.
  cases what with
  | advance count => rw [move, advance?_eq fits]; rfl
  | advanceOver rune => rw [move, advance?_eq fits]; rfl
  | next => rw [move, next?_eq fits]; rfl
  | take count => rw [move, take_eq fits]; rfl
  | accept pattern => rw [move, accept?_eq fits]; rfl
  | acceptMany pattern =>
    obtain ⟨count, passes, skips⟩ := exists_acceptMany_eq fits pattern
    rw [move, passes, Move.run, skips, ← arrival_walked]
    rfl
  | acceptBlank => rw [move, acceptBy?_eq fits]; rfl
  | acceptBlanks =>
    obtain ⟨count, runes, passes, skips⟩ := exists_passWhile_eq fits (.ofPred Unicode.isBlank)
    rw [move, passes, Move.run, Cursor.acceptBlanks?, skips, ← arrival_walked]
    rfl
  | acceptBy query => rw [move, acceptBy?_eq fits]; rfl
  | acceptManyBy query =>
    obtain ⟨count, runes, passes, skips⟩ := exists_passWhile_eq fits query
    rw [move, passes, Move.run, skips, ← inquiryArrival_walked]
    rfl
  | skipToText text =>
    obtain ⟨count, passes, skips⟩ := exists_skipToText_eq fits text
    rw [move, passes, Move.run, skips, ← arrival_walked]
    rfl
  | skipToOneOf set =>
    obtain ⟨count, passes, skips⟩ := exists_skipToOneOf_eq fits set
    rw [move, passes, Move.run, skips, ← arrival_walked]
    rfl
  | skipUntilBy query =>
    obtain ⟨count, runes, passes, skips⟩ := exists_passUntil_eq fits query
    rw [move, passes, Move.run, skips, ← inquiryArrival_walked]
    rfl
  | require pattern => rw [move, require_eq fits]; rfl
  | requireOneOf set => rw [move, requireOneOf_eq fits]; rfl
  | requireBy query expected => rw [move, requireBy_eq fits]; rfl

/-- Whether a step by itself opens no buffer that takes more than half of all addresses. -/
def opensFitting : Step → Bool
  | .place _ buffer => buffer.length < 2 ^ 63
  -- All other steps stay with the buffers that are open.
  | _ => true

/-- Moves lead from cursors that fit to cursors that fit. -/
theorem keeps_fits : Step.Keeps opensFitting Cursor.Fits := by
  -- To fit is to be in a buffer, and one that is small enough.
  have inside : Step.Keeps opensFitting Cursor.InBuffer := Script.keeps_inBuffer
  have bounded : Step.Keeps opensFitting (fun cursor => cursor.buffer.length < 2 ^ 63) :=
    Script.keeps_of_buffer (·.length < 2 ^ 63) fun _ _ opens => of_decide_eq_true opens
  refine ⟨?_, ?_⟩
  · exact fun start what kind fits =>
      ⟨inside.move start what kind fits.inside, bounded.move start what kind fits.bounded⟩
  · exact fun name buffer opens => ⟨inside.place name buffer opens, bounded.place name buffer opens⟩

mutual

/-- Every step comes to the same without a fault. -/
theorem step_eq {session : Session} (all : session.All Cursor.Fits) : (what : Step) →
    what.every opensFitting = true → step session what = .ok (what.run session)
  | .look what, _ => by
    rw [step, look_eq all.cursor]
    rfl
  | .move what, _ => by
    rw [step, move_eq all.cursor]
    rfl
  | .save _, _ | .place _ _, _ | .revisit _, _ | .sameAs _, _ => rfl
  | .since name, _ => by
    rw [step, since_eq all.cursor (all.mark name)]
    rfl
  | .textSince name, _ => by
    rw [step, since_eq all.cursor (all.mark name)]
    rfl
  | .capture held inner, opens => by
    -- The mark of a capture is where its step begins, whatever the step has saved or revisited.
    have after := (keeps_fits.run all inner opens).1
    rw [step, step_eq all inner opens, ok_bind, since_eq after.cursor all.cursor, Step.run]
    simp only [Cursor.capture]
    split <;> rfl
  | .allOf steps, opens => by
    rw [step, stepUntil_eq false all steps opens]
    rfl
  | .anyOf steps, opens => by
    rw [step, stepUntil_eq true all steps opens]
    rfl

/-- So do steps in a row, up to one that succeeds or fails. -/
theorem stepUntil_eq (success : Bool) {session : Session} (all : session.All Cursor.Fits) :
    (steps : List Step) → Step.allEvery opensFitting steps = true →
      stepUntil success session steps = .ok (Step.runUntil success session steps)
  | [], _ => rfl
  | first :: steps, opens => by
    rw [Step.allEvery, Bool.and_eq_true] at opens
    -- The steps behind the first find what it has left, which still fits.
    have after := (keeps_fits.run all first opens.1).1
    rw [stepUntil, step_eq all first opens.1, ok_bind, Step.runUntil]
    split
    · rfl
    · rw [stepUntil_eq success after steps opens.2]
      rfl

end

/-- A run comes to the same without a fault. -/
theorem run_eq {session : Session} (all : session.All Cursor.Fits) {steps : List Step}
    (opens : Step.allEvery opensFitting steps = true) :
    run session steps = .ok (Script.run session steps) := by
  -- The induction is on the steps, each of which finds the session that the one before it left.
  induction steps generalizing session with
  | nil => rfl
  | cons first steps ih =>
    rw [Step.allEvery, Bool.and_eq_true] at opens
    have after := (keeps_fits.run all first opens.1).1
    rw [run, step_eq all first opens.1, ok_bind, ih after opens.2]
    rfl

/--
No run comes to a fault, as long as no buffer takes more than half of all addresses.

Every slice that is taken is within its bytes, no sum and no difference leaves the machine numbers,
and every loop ends. The cursor and all that was saved stay within their buffers throughout.
-/
theorem run_without_fault (buffer : Bytes) (steps : List Step) (bounded : buffer.length < 2 ^ 63)
    (opens : Step.allEvery opensFitting steps = true) :
    let ran := Script.run (Session.start buffer) steps
    run (Session.start buffer) steps = .ok ran ∧ ran.session.All Cursor.Fits ∧
      ∀ report ∈ ran.report, report.Throughout Cursor.Fits := by
  intro ran
  -- At its start a session has saved nothing, and its cursor has passed nothing.
  have start : (Session.start buffer).All Cursor.Fits :=
    Session.All.start ⟨Nat.zero_le _, bounded⟩
  exact ⟨run_eq start opens, keeps_fits.run_all start opens⟩

/-- A run that counts beyond the end and compares two buffers has no fault. -/
theorem run_without_fault_across :
    let steps : List Step := [.place "other" [0xE2, 0x98], .move (.take (2 ^ 64 - 1)),
      .since "other", .revisit "other", .move (.accept (.anyCase "ab")), .move .next]
    let ran := Script.run (Session.start [0x61, 0x62, 0x63]) steps
    List.length ([0x61, 0x62, 0x63] : Bytes) < 2 ^ 63 ∧
      Step.allEvery opensFitting steps = true ∧
      run (Session.start [0x61, 0x62, 0x63]) steps = .ok ran ∧ ran.session.All Cursor.Fits ∧
      ∀ report ∈ ran.report, report.Throughout Cursor.Fits := by
  intro steps ran
  have bounded : List.length ([0x61, 0x62, 0x63] : Bytes) < 2 ^ 63 := by decide
  have opens : Step.allEvery opensFitting steps = true := by decide
  exact ⟨bounded, opens, run_without_fault _ steps bounded opens⟩

end Checked

end RuneScan
