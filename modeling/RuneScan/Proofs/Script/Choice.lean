import RuneScan.Proofs.Script.Forward
import RuneScan.Proofs.Script.Trace

/-! A choice is made among moves at one place, and a capture of it takes what one of them passes. -/

namespace RuneScan.Script

mutual

/-- Whether a step is a move, or a capture of a choice, or any of several choices. -/
def Step.isChoice : Step → Bool
  | .move _ => true
  | .capture _ step => step.isChoice
  | .anyOf steps => Step.areChoices steps
  -- Steps in order are not undone if one of them fails, and looks and marks pass nothing.
  | _ => false

/-- Whether each of several steps is a choice. -/
def Step.areChoices : List Step → Bool
  | [] => true
  | step :: steps => step.isChoice && Step.areChoices steps

end

mutual

/-- The steps that a choice is among, in the order in which they are tried. -/
def Step.alternatives : Step → List Step
  | .anyOf steps => Step.allAlternatives steps
  -- A capture is an alternative as a whole.
  | step => [step]

/-- The steps that several choices in a row are among. -/
def Step.allAlternatives : List Step → List Step
  | [] => []
  | step :: steps => step.alternatives ++ Step.allAlternatives steps

end

/-- An answer that does not let a script go on says that the move has failed. -/
theorem Answer.refuses_of_fails {answer : Answer} (fails : answer.succeeded = false) :
    answer.refuses = true := by
  -- Only a no and a demand that was not met fail.
  cases answer with
  | flag held => exact (Bool.not_eq_true' _).mpr fails
  | demand outcome => exact (Bool.not_eq_true' _).mpr fails
  | _ => exact absurd fails (by simp [Answer.succeeded])

/-- A move that fails stays where it is. -/
theorem Move.cursor_run_of_fails {move : Move} {start : Cursor}
    (fails : (move.run start).response.answer.succeeded = false) :
    (move.run start).cursor = start := by
  -- It passes bytes unless it refuses, and the offset in its report makes no difference to that.
  obtain ⟨response, count, comes⟩ := Move.exists_comes move start.rest
  have arrives := comes.run_eq start rfl
  have refuses := Answer.refuses_of_fails fails
  rw [arrives, Response.reportedAt, Answer.refuses_reportedAt] at refuses
  rw [arrives, (comes.refuses_iff.mp refuses).1, Cursor.skip_zero]

namespace Session

/-- Whether any of several steps succeeds in a session, and what the first that does leads to. -/
def attempt (session : Session) (steps : List Step) : Bool × Session :=
  -- Each step is tried in the same session, whatever the ones before it have done.
  match steps.find? fun step => (step.run session).report.succeeded with
  | some step => (true, (step.run session).session)
  | none => (false, session)

/-- What comes of a choice among steps, each of which passes bytes or changes nothing. -/
structure Chooses (session : Session) (alternatives : List Step) (succeeded : Bool)
    (after : Session) : Prop where
  /-- It leads over bytes that are left, and has no other effect. -/
  skips : ∃ count ≤ session.cursor.remaining, after = session.goTo (session.cursor.skip count)
  /-- It is what comes of an attempt at the steps. -/
  attempted : (succeeded, after) = session.attempt alternatives

variable {session after : Session} {steps : List Step} {succeeded : Bool}

/-- An attempt at one step is that step, if it changes nothing where it fails. -/
theorem attempt_singleton {step : Step}
    (stays : (step.run session).report.succeeded = false → (step.run session).session = session) :
    session.attempt [step] = ((step.run session).report.succeeded, (step.run session).session) := by
  -- Where the step fails, the attempt leads nowhere, and nor does the step.
  rw [attempt, List.find?_singleton]
  cases succeeds : (step.run session).report.succeeded with
  | true => rfl
  | false => rw [stays succeeds]; rfl

/-- An attempt at more steps goes on only if the first of them all fail. -/
theorem attempt_append (session : Session) (steps later : List Step) :
    session.attempt (steps ++ later) =
      if (session.attempt steps).1 then session.attempt steps else session.attempt later := by
  -- The first step to succeed is one of the former, or else one of the latter.
  rw [attempt, List.find?_append, attempt]
  cases steps.find? fun step => (step.run session).report.succeeded with
  | none => rw [Option.none_or, if_neg Bool.false_ne_true]; rfl
  | some step => rfl

/-- An attempt that fails changes nothing. -/
theorem attempt_of_fails (fails : (session.attempt steps).1 = false) :
    (session.attempt steps).2 = session := by
  -- It leads to another session only by way of a step that has succeeded.
  rw [attempt] at fails ⊢
  split at fails
  · contradiction
  · rfl

/-- An attempt succeeds if one of the steps does. -/
theorem attempt_succeeds_iff :
    (session.attempt steps).1 = true ↔
      ∃ step ∈ steps, (step.run session).report.succeeded = true := by
  -- It is to find a step that succeeds.
  rw [← List.find?_isSome, attempt]
  cases steps.find? fun step => (step.run session).report.succeeded <;> simp

/-- An attempt leads where the first step to succeed leads. -/
theorem attempt_of_first {before later : List Step} {first : Step}
    (fail : ∀ earlier ∈ before, (earlier.run session).report.succeeded = false)
    (succeeds : (first.run session).report.succeeded = true) :
    session.attempt (before ++ first :: later) = (true, (first.run session).session) := by
  -- The steps before it are tried and passed over.
  have found : (before ++ first :: later).find?
      (fun step => (step.run session).report.succeeded) = some first :=
    List.find?_eq_some_iff_append.mpr
      ⟨succeeds, before, later, rfl, fun earlier member => by simp [fail earlier member]⟩
  rw [attempt, found]

/-- A choice that fails changes nothing. -/
theorem Chooses.stays (chooses : session.Chooses steps succeeded after)
    (fails : succeeded = false) : after = session := by
  -- It is what comes of an attempt, which has failed.
  have attempted := chooses.attempted
  have stays : (session.attempt steps).2 = session :=
    attempt_of_fails ((congrArg Prod.fst attempted).symm.trans fails)
  exact (congrArg Prod.snd attempted).trans stays

/-- Nothing but the cursor is changed by a choice. -/
theorem Chooses.goTo_cursor (chooses : session.Chooses steps succeeded after) :
    session.goTo after.cursor = after := by
  -- It has done nothing but skip bytes.
  obtain ⟨count, _, reached⟩ := chooses.skips
  rw [reached]
  rfl

end Session

mutual

/-- A choice comes to what the first of its alternatives to succeed comes to. -/
theorem Step.chooses (session : Session) : (step : Step) → step.isChoice = true →
    session.Chooses step.alternatives (step.run session).report.succeeded
      (step.run session).session
  | .move what, _ => by
    obtain ⟨count, within, reached⟩ := what.exists_run_eq_skip session.cursor
    -- A move that fails has changed nothing, also as an attempt.
    refine ⟨⟨count, within, congrArg session.goTo reached⟩, (Session.attempt_singleton ?_).symm⟩
    intro fails
    exact congrArg session.goTo (Move.cursor_run_of_fails fails)
  | .capture held step, choice => by
    -- The capture is one alternative, which leads where its step leads and fails if that does.
    have inner := Step.chooses session step choice
    have alone : session.attempt [.capture held step] = _ := Session.attempt_singleton inner.stays
    exact ⟨inner.skips, alone.symm⟩
  | .anyOf steps, choices => Step.allChoose session steps choices

/-- Choices that are tried in a row are one choice among the alternatives of them all. -/
theorem Step.allChoose (session : Session) : (steps : List Step) → Step.areChoices steps = true →
    session.Chooses (Step.allAlternatives steps)
      ((Step.runUntil true session steps).report.any (·.succeeded))
      (Step.runUntil true session steps).session
  | [], _ => ⟨⟨0, Nat.zero_le _, rfl⟩, rfl⟩
  | step :: steps, choices => by
    rw [Step.areChoices, Bool.and_eq_true] at choices
    have first := Step.chooses session step choices.1
    have attempted := first.attempted
    have stays := first.stays
    rw [Step.runUntil, Step.allAlternatives]
    cases succeeds : (step.run session).report.succeeded with
    | true =>
      -- The first choice that succeeds is the last one to be tried.
      rw [succeeds] at attempted
      refine ⟨first.skips, ?_⟩
      rw [Session.attempt_append, ← attempted]
      simp [succeeds]
    | false =>
      -- The others find the session as it was.
      have later := Step.allChoose session steps choices.2
      rw [succeeds, stays succeeds] at attempted
      rw [if_neg (by simp), stays succeeds]
      refine ⟨later.skips, ?_⟩
      rw [Session.attempt_append, ← attempted, if_neg Bool.false_ne_true, ← later.attempted]
      simp [succeeds]

end

mutual

/-- All that is tried within a choice is a choice that is tried where the first one is made. -/
theorem Step.trace_choice (session : Session) : (step : Step) → step.isChoice = true →
    ∀ event ∈ step.trace session,
      event.step.isChoice = true ∧ event.report = (event.step.run session).report
  | .move what, choice, event, member => by
    rw [List.mem_singleton.mp member]
    exact ⟨choice, rfl⟩
  | .capture held step, choice, event, member => by
    -- What happens last is the step itself, behind all that is inside of it.
    rcases List.mem_append.mp member with inside | last
    · exact Step.trace_choice session step choice event inside
    · rw [List.mem_singleton.mp last]
      exact ⟨choice, rfl⟩
  | .anyOf steps, choices, event, member => by
    rcases List.mem_append.mp member with inside | last
    · exact Step.trace_choices session steps choices event inside
    · rw [List.mem_singleton.mp last]
      exact ⟨choices, rfl⟩

/-- So it is of choices that are tried in a row. -/
theorem Step.trace_choices (session : Session) : (steps : List Step) →
    Step.areChoices steps = true → ∀ event ∈ Step.traceUntil true session steps,
      event.step.isChoice = true ∧ event.report = (event.step.run session).report
  | [], _, event, member => absurd member List.not_mem_nil
  | step :: steps, choices, event, member => by
    rw [Step.areChoices, Bool.and_eq_true] at choices
    rw [Step.traceUntil, List.mem_append] at member
    -- Those behind the first are tried only if that has failed.
    rcases member with first | later
    · exact Step.trace_choice session step choices.1 event first
    · cases succeeds : (step.run session).report.succeeded with
      | true => simp [succeeds] at later
      | false =>
        -- The one before has changed nothing.
        rw [succeeds, (Step.chooses session step choices.1).stays succeeds] at later
        exact Step.trace_choices session steps choices.2 event later

end

/-- A capture of a choice takes what was passed by the first of some steps to succeed, if any. -/
structure Captures (session : Session) (held : String) (alternatives : List Step)
    (succeeded : Bool) (reached : Cursor) (text : String) : Prop where
  /-- It succeeds if one of the steps does. -/
  succeeded_iff : succeeded = true ↔
    ∃ step ∈ alternatives, (step.run session).report.succeeded = true
  /-- It leads where the first of them leads, and the text is what was passed by that. -/
  first : ∀ before step after, alternatives = before ++ step :: after →
    (∀ earlier ∈ before, (earlier.run session).report.succeeded = false) →
    (step.run session).report.succeeded = true →
    ∃ count ≤ session.cursor.remaining,
      (step.run session).session = session.goTo (session.cursor.skip count) ∧
        reached = session.cursor.skip count ∧
        text = Utf8.lossy (session.cursor.rest.take count)
  /-- If it fails, it stays where it is, and the text is what was held before. -/
  unmoved : succeeded = false → reached = session.cursor ∧ text = held

/-- What comes of a choice is what a capture of it takes. -/
theorem Session.Chooses.captures {session after : Session} {alternatives : List Step}
    {succeeded : Bool} (chooses : session.Chooses alternatives succeeded after) (held : String) :
    Captures session held alternatives succeeded after.cursor
      (session.cursor.capture held succeeded after.cursor) := by
  have attempted := chooses.attempted
  refine ⟨?_, ?_, ?_⟩
  · rw [← Session.attempt_succeeds_iff, ← attempted]
  · intro before step later split fail succeeds
    -- The steps before the first to succeed were tried in vain.
    rw [split, Session.attempt_of_first fail succeeds, Prod.mk.injEq] at attempted
    obtain ⟨holds, same⟩ := attempted
    obtain ⟨count, within, reached⟩ := chooses.skips
    refine ⟨count, within, same.symm.trans reached, congrArg Session.cursor reached, ?_⟩
    rw [holds, reached, Session.goTo, Cursor.capture, if_pos rfl, Cursor.textSince,
      Cursor.since_skip within]
  · intro fails
    refine ⟨congrArg Session.cursor (chooses.stays fails), ?_⟩
    -- No text was taken.
    rw [fails, Cursor.capture, if_neg Bool.false_ne_true]

/--
A capture of a choice takes what was passed by the first alternative to succeed, or else nothing.

The text is that of the bytes passed by that alternative alone, and no mark is saved. All that is
tried on the way is tried where the capture begins, so this is true of each capture within it too.
-/
theorem run_capture_of_choice (session : Session) (held : String) (step : Step)
    (choice : step.isChoice = true) :
    (∃ succeeded reached text inner,
      (Step.capture held step).run session =
          ⟨.capture succeeded reached text inner, session.goTo reached⟩ ∧
        Captures session held step.alternatives succeeded reached text) ∧
      ∀ event ∈ step.trace session,
        event.step.isChoice = true ∧ event.report = (event.step.run session).report := by
  -- The choice changes nothing but the cursor, and neither does the capture.
  have chooses := Step.chooses session step choice
  refine ⟨⟨_, _, _, (step.run session).report, ?_, chooses.captures held⟩,
    Step.trace_choice session step choice⟩
  rw [Step.run, chooses.goTo_cursor]

/-- A text in any case is seen but too long to be accepted, so that a later step takes the bytes. -/
theorem run_capture_of_choice_short :
    let session := Session.start [0x73, 0xFF]
    let digits : Step := .move (.acceptManyBy (.ofPred Char.isDigit))
    let missed : List Step := [.move (.accept (.anyCase "ſ\uFFFD")), .capture "inner" digits]
    let passed : Step := .capture "later" (.anyOf [digits, .move (.skipToText "\n")])
    let step : Step := .anyOf [.anyOf missed, .anyOf [], passed, .move .next]
    session.cursor.sees (.anyCase "ſ\uFFFD") = true ∧ step.isChoice = true ∧
      ∃ inner, (Step.capture "held" step).run session =
        ⟨.capture true (session.cursor.skip 2) "s\uFFFD" inner,
          session.goTo (session.cursor.skip 2)⟩ := by
  intro session digits missed passed step
  have choice : step.isChoice = true := by decide +kernel
  have split : step.alternatives = missed ++ passed :: [.move .next] := rfl
  -- The match is seen, but it is longer than what is left, and no digit stands there.
  have fail : ∀ earlier ∈ missed, (earlier.run session).report.succeeded = false := by
    decide +kernel
  have succeeds : (passed.run session).report.succeeded = true := by decide +kernel
  obtain ⟨⟨succeeded, reached, text, inner, runs, captures⟩, _⟩ :=
    run_capture_of_choice session "held" step choice
  have holds : succeeded = true :=
    captures.succeeded_iff.mpr ⟨passed, by rw [split]; simp, succeeds⟩
  obtain ⟨count, _, leads, rfl, rfl⟩ := captures.first _ _ _ split fail succeeds
  -- The first alternative to succeed passes both bytes.
  have both : count = 2 := by
    have offset : (passed.run session).session.cursor.offset = 2 := by decide +kernel
    rwa [leads, Session.goTo, Cursor.offset_skip, show session.cursor.offset = 0 from rfl,
      Nat.zero_add] at offset
  have shown : Utf8.lossy (session.cursor.rest.take 2) = "s\uFFFD" := by decide +kernel
  subst both holds
  exact ⟨by decide +kernel, choice, inner, by rw [runs, shown]⟩

end RuneScan.Script
