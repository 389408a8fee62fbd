import RuneScan.Cursor.Mark
import RuneScan.Proofs.Script.Forward
import RuneScan.Proofs.Script.Invariant
import RuneScan.Proofs.Script.Trace

/-! Two runs that begin with the same left go on in parallel, whatever was passed before. -/

namespace RuneScan

/-- The bytes passed since a mark are told from what is left at both ends. -/
theorem Cursor.since_congr {cursor other mark otherMark : Cursor} (same : cursor.rest = other.rest)
    (marked : mark.rest = otherMark.rest) : cursor.since mark = other.since otherMark := by
  -- Only the numbers of remaining bytes count.
  rw [since, since, marked, remaining_congr same, remaining_congr marked]

namespace Script

/-- Whether a look is at what is left, or at the offset, which is known to differ. -/
def Look.ignoresPassed : Look → Bool
  -- The description shows the offset within a text.
  | .describe => false
  | _ => true

/-- Whether a step by itself has nothing to do with the bytes before its cursor. -/
def Step.ignoresPassed : Step → Bool
  | .look what => what.ignoresPassed
  -- Two cursors are the same if they belong to one buffer and have passed as much of it.
  | .sameAs _ => false
  | _ => true

/-- Whether a step goes to a saved cursor. -/
def Step.isRevisit : Step → Bool
  | .revisit _ => true
  -- Every other step goes on from where the cursor stands.
  | _ => false

/--
Two reports on a step say the same.

A demand that was not met is reported at the place where the report is made, and a step that asks
for the offset is told that of its own place.
-/
def Step.Agree (step : Step) : Report → Report → Prop
  | .single one here, .single other there =>
    (∃ response : Response, one = response.reportedAt here.offset ∧
      other = response.reportedAt there.offset) ∨
    step = .look .offset ∧ one = .ofAnswer (.count here.offset) ∧
      other = .ofAnswer (.count there.offset)
  -- A capture takes text from between two places, and says nothing of where they are.
  | .capture held _ text _, .capture otherHeld _ otherText _ => held = otherHeld ∧ text = otherText
  | .group held _ _, .group otherHeld _ _ => held = otherHeld
  | _, _ => False

/--
The same happens in two runs, step by step.

The flags tell whether no step has gone to a saved cursor yet, before these events and after them.
As long as that is so, the offsets stay apart by the same gap.
-/
inductive Parallel (gap : Int) : Bool → List Event → List Event → Bool → Prop where
  /-- Nothing happens in either run. -/
  | nil (still : Bool) : Parallel gap still [] [] still
  /-- The same step says the same and leaves the same, and the runs go on in parallel. -/
  | cons {still last : Bool} {one other : Event} {later others : List Event}
      (step : one.step = other.step) (agree : one.step.Agree one.report other.report)
      (rest : one.report.reached.rest = other.report.reached.rest)
      (apart : (still && !one.step.isRevisit) = true →
        (one.report.reached.offset : Int) - other.report.reached.offset = gap)
      (onward : Parallel gap (still && !one.step.isRevisit) later others last) :
      Parallel gap still (one :: later) (other :: others) last

/-- What goes on in parallel behind two parallel stretches continues them. -/
theorem Parallel.append {gap : Int} {still middle last : Bool}
    {first second later others : List Event} (front : Parallel gap still first second middle)
    (back : Parallel gap middle later others last) :
    Parallel gap still (first ++ later) (second ++ others) last := by
  -- The induction follows the events in front.
  induction front with
  | nil => exact back
  | cons step agree rest apart _ ih => exact .cons step agree rest apart (ih back)

/-- In both sessions the same is left, at the cursor and at the marks, which have the same names. -/
structure Session.SameLeft (first second : Session) : Prop where
  /-- What is left at the cursor. -/
  cursor : first.cursor.rest = second.cursor.rest
  /-- What is left at each mark. -/
  marks : List.Forall₂ (fun one other => one.1 = other.1 ∧ one.2.rest = other.2.rest)
    first.marks second.marks

/-- The same is left in both sessions, whose cursors may still be apart by a known gap. -/
structure Session.Beside (gap : Int) (still : Bool) (first second : Session) : Prop
    extends first.SameLeft second where
  /-- The gap between the offsets of the cursors. -/
  apart : still = true → (first.cursor.offset : Int) - second.cursor.offset = gap

/-- A name stands for marks at which the same is left. -/
theorem Session.SameLeft.mark {first second : Session} (same : first.SameLeft second)
    (name : String) : (first.mark name).rest = (second.mark name).rest := by
  obtain ⟨cursor, marks⟩ := same
  rw [Session.mark, Session.mark]
  generalize first.marks = saved at marks ⊢
  generalize second.marks = otherSaved at marks ⊢
  -- The induction follows the marks up to the one of that name.
  induction marks with
  | nil => exact cursor
  | @cons one other _ _ alike _ ih =>
    obtain ⟨key, place⟩ := one
    obtain ⟨_, otherPlace⟩ := other
    obtain ⟨rfl, rest⟩ := alike
    rw [List.lookup_cons, List.lookup_cons]
    cases name == key with
    | true => exact rest
    | false => exact ih

/-- An answer that is no refusal reports no offset. -/
theorem Response.reportedAt_eq {response : Response} (accepted : response.answer.refuses = false)
    (offset : Nat) : response.reportedAt offset = response := by
  -- The offset is that of a demand that was not met.
  obtain ⟨answer, asked⟩ := response
  cases answer with
  | demand outcome =>
    cases outcome with
    | ok given => rfl
    | error mismatch => simp [Answer.refuses, Except.isOk, Except.toBool] at accepted
  | _ => rfl

/-- A move that comes to something makes its report at the place that it comes to. -/
theorem Move.Comes.response_eq {move : Move} {view : Bytes} {response : Response} {count : Nat}
    (comes : move.Comes view response count) (offset : Nat) :
    response.reportedAt offset = response.reportedAt (offset + count) := by
  -- A move that fails has passed nothing.
  cases refused : response.answer.refuses with
  | true => rw [(comes.refuses_iff.mp refused).1, Nat.add_zero]
  | false => rw [Response.reportedAt_eq refused, Response.reportedAt_eq refused]

/-- A look that ignores what was passed finds the same where the same is left. -/
theorem Look.run_congr {first second : Cursor} (same : first.rest = second.rest) {what : Look}
    (ignores : what.ignoresPassed = true) (plain : what ≠ .offset) :
    what.run first = what.run second := by
  -- Each look takes what it finds from what is left.
  cases what with
  | describe => contradiction
  | offset => contradiction
  | rest => simp only [Look.run, same]
  | remaining => simp only [Look.run, Cursor.remaining_congr same]
  | byte => simp only [Look.run, Cursor.byte, same]
  | rune => simp only [Look.run, Cursor.rune_congr same]
  | peek count => simp only [Look.run, Cursor.peek_congr same]
  | atEnd => simp only [Look.run, Cursor.atEnd_congr same]
  | hasMore => simp only [Look.run, Cursor.atEnd_congr same]
  | atLineEnd => simp only [Look.run, Cursor.atLineEnd, same]
  | display => exact congrArg (fun rest => Response.ofAnswer (.text (Utf8.lossy rest))) same
  | encounter => simp only [Look.run, Cursor.encounter_congr same]
  | sees pattern => simp only [Look.run, Cursor.sees_congr same]
  | seesBy query => simp only [Look.run, Cursor.seesBy_congr same]

/-- A look tells no offset by a report of a demand that was not met. -/
theorem Look.reportedAt_run (cursor : Cursor) (what : Look) (offset : Nat) :
    (what.run cursor).reportedAt offset = what.run cursor := by
  -- It demands nothing.
  cases what <;> rfl

/-- Looks that ignore what was passed agree where the same is left. -/
theorem Look.agree {first second : Cursor} (same : first.rest = second.rest) {what : Look}
    (ignores : what.ignoresPassed = true) :
    (Step.look what).Agree (.single (what.run first) first) (.single (what.run second) second) := by
  -- The look at the offset tells each run its own, and every other one the same.
  by_cases plain : what = .offset
  · subst plain
    exact Or.inr ⟨rfl, rfl, rfl⟩
  · left
    refine ⟨what.run first, (Look.reportedAt_run ..).symm, ?_⟩
    rw [Look.reportedAt_run, Look.run_congr same ignores plain]

/-- Moves agree where the same is left, and they go equally far. -/
theorem Move.agree {first second : Cursor} (same : first.rest = second.rest) (move : Move) :
    (Step.move move).Agree (.single (move.run first).response (move.run first).cursor)
        (.single (move.run second).response (move.run second).cursor) ∧
      ∃ count, (move.run first).cursor = first.skip count ∧
        (move.run second).cursor = second.skip count := by
  -- What a move comes to is told from what is left.
  obtain ⟨response, count, comes⟩ := Move.exists_comes move second.rest
  rw [comes.run_eq first same, comes.run_eq second rfl]
  exact ⟨Or.inl ⟨response, comes.response_eq first.offset, comes.response_eq second.offset⟩,
    count, rfl, rfl⟩

/-- Whether an answer holds a script up does not depend on the offset in a report. -/
theorem Answer.succeeded_reportedAt (answer : Answer) (offset : Nat) :
    (answer.reportedAt offset).succeeded = answer.succeeded := by
  -- A demand that was not met holds the script up wherever it is reported.
  cases answer with
  | demand outcome => cases outcome <;> rfl
  | _ => rfl

/-- Reports that say the same are both of a success or both of a failure. -/
theorem Step.Agree.succeeded_eq {step : Step} {first second : Report}
    (agree : step.Agree first second) : first.succeeded = second.succeeded := by
  -- Reports of different kinds never agree.
  cases first with
  | single one here =>
    cases second with
    | single other there =>
      rcases agree with ⟨response, rfl, rfl⟩ | ⟨_, rfl, rfl⟩
      · exact (Answer.succeeded_reportedAt ..).trans (Answer.succeeded_reportedAt ..).symm
      · rfl
    | capture | group => exact agree.elim
  | capture held here text inner =>
    cases second with
    | capture => exact agree.1
    | single | group => exact agree.elim
  | group held here inner =>
    cases second with
    | group => exact agree
    | single | capture => exact agree.elim

/-- The report on a step tells where the session stands after it. -/
theorem Step.reached_run (session : Session) (step : Step) :
    (step.run session).report.reached = (step.run session).session.cursor := by
  -- Each kind of step reports the cursor that it leaves.
  cases step <;> rfl

/-- A step runs in parallel in two sessions and leaves them beside each other. -/
def Step.RunsAlike (gap : Int) (still : Bool) (first second : Session) (step : Step) : Prop :=
  ∃ last, Parallel gap still (step.trace first) (step.trace second) last ∧
    (step.run first).session.Beside gap last (step.run second).session ∧
    (step.run first).report.succeeded = (step.run second).report.succeeded

section Beside

variable {gap : Int} {still : Bool} {first second : Session}

/-- A step whose reports agree is an event in both runs. -/
theorem Step.parallel_event {step : Step}
    (agree : step.Agree (step.run first).report (step.run second).report)
    (after : (step.run first).session.Beside gap (still && !step.isRevisit)
      (step.run second).session) :
    Parallel gap still [⟨step, (step.run first).report⟩] [⟨step, (step.run second).report⟩]
      (still && !step.isRevisit) := by
  -- What is left, and the gap, are those behind the step.
  refine .cons rfl agree ?_ ?_ (.nil _)
  · rw [Step.reached_run, Step.reached_run]
    exact after.cursor
  · rw [Step.reached_run, Step.reached_run]
    exact after.apart

/-- A step runs in parallel, behind what happens inside of it, if its reports agree. -/
theorem Step.runsAlike_around {step : Step} {middle last : Bool} (inner : Session → List Event)
    (around : ∀ session, step.trace session =
      inner session ++ [⟨step, (step.run session).report⟩])
    (inside : Parallel gap still (inner first) (inner second) middle)
    (turned : (middle && !step.isRevisit) = last)
    (agree : step.Agree (step.run first).report (step.run second).report)
    (after : (step.run first).session.Beside gap last (step.run second).session) :
    step.RunsAlike gap still first second := by
  -- The step ends behind all that happens inside of it.
  subst turned
  rw [Step.RunsAlike, around, around]
  exact ⟨_, inside.append (Step.parallel_event agree after), after, agree.succeeded_eq⟩

/-- A step with no steps inside runs in parallel if its reports agree. -/
theorem Step.runsAlike_plain {step : Step} {last : Bool}
    (plain : ∀ session, step.trace session = [⟨step, (step.run session).report⟩])
    (turned : (still && !step.isRevisit) = last)
    (agree : step.Agree (step.run first).report (step.run second).report)
    (after : (step.run first).session.Beside gap last (step.run second).session) :
    step.RunsAlike gap still first second :=
  Step.runsAlike_around (fun _ => []) plain (.nil still) turned agree after

/-- A step that tells the same answer in both sessions agrees, if no demand is told about. -/
theorem Step.agree_tell {step : Step} {answer other : Answer} (same : answer = other)
    (plain : ∀ offset, answer.reportedAt offset = answer) :
    step.Agree (first.tell answer).report (second.tell other).report := by
  -- A report that tells of no demand has no offset to differ in.
  subst same
  refine Or.inl ⟨.ofAnswer answer, ?_, ?_⟩
  · rw [Response.reportedAt, Response.ofAnswer, plain]
  · rw [Response.reportedAt, Response.ofAnswer, plain]

/-- Sessions that are beside each other save the same under the same name. -/
theorem Session.Beside.save (beside : first.Beside gap still second) (name : String)
    {place other : Cursor} (same : place.rest = other.rest) :
    (first.save name place).Beside gap still (second.save name other) :=
  ⟨⟨beside.cursor, .cons ⟨rfl, same⟩ beside.marks⟩, beside.apart⟩

/-- Sessions that are beside each other go on by the same number of bytes. -/
theorem Session.Beside.skip (beside : first.Beside gap still second) (count : Nat) :
    (first.goTo (first.cursor.skip count)).Beside gap still
      (second.goTo (second.cursor.skip count)) := by
  -- Both offsets grow by the same count, so the gap stays.
  refine ⟨⟨?_, beside.marks⟩, ?_⟩
  · simp only [Session.goTo, Cursor.rest_skip, beside.cursor]
  · intro yet
    have apart := beside.apart yet
    simp only [Session.goTo, Cursor.offset_skip]
    omega

end Beside

section Outcomes

variable {reports others : List Report}
  (alike : reports.map Report.succeeded = others.map Report.succeeded)
include alike

/-- Reports on the same successes tell alike whether all the steps have succeeded. -/
theorem all_succeeded_congr : reports.all (·.succeeded) = others.all (·.succeeded) := by
  simpa only [List.all_map, Function.comp_def, id_eq] using congrArg (List.all · id) alike

/-- Reports on the same successes tell alike whether any of the steps has succeeded. -/
theorem any_succeeded_congr : reports.any (·.succeeded) = others.any (·.succeeded) := by
  simpa only [List.any_map, Function.comp_def, id_eq] using congrArg (List.any · id) alike

end Outcomes

mutual

/-- A step that ignores what was passed runs in parallel where the same is left. -/
theorem Step.runsAlike {gap : Int} {still : Bool} {first second : Session}
    (beside : first.Beside gap still second) : (step : Step) →
      step.every Step.ignoresPassed = true → step.RunsAlike gap still first second
  | .look what, ignores =>
    Step.runsAlike_plain (fun _ => rfl) (Bool.and_true still) (Look.agree beside.cursor ignores)
      beside
  | .move what, _ => by
    obtain ⟨agree, count, here, there⟩ := Move.agree beside.cursor what
    refine Step.runsAlike_plain (fun _ => rfl) (Bool.and_true still) agree ?_
    rw [Step.run, Step.run, here, there]
    exact beside.skip count
  | .save name, _ =>
    Step.runsAlike_plain (fun _ => rfl) (Bool.and_true still) (Step.agree_tell rfl fun _ => rfl)
      (beside.save name beside.cursor)
  | .place name buffer, _ =>
    Step.runsAlike_plain (fun _ => rfl) (Bool.and_true still) (Step.agree_tell rfl fun _ => rfl)
      (beside.save name rfl)
  | .revisit name, _ =>
    -- From here on the offsets are those of the marks, which may be apart by any gap.
    Step.runsAlike_plain (fun _ => rfl) (Bool.and_false still) (Step.agree_tell rfl fun _ => rfl)
      ⟨⟨beside.mark name, beside.marks⟩, nofun⟩
  | .since name, _ =>
    have same := Cursor.since_congr beside.cursor (beside.mark name)
    Step.runsAlike_plain (fun _ => rfl) (Bool.and_true still)
      (Step.agree_tell (congrArg Answer.bytes same) fun _ => rfl) beside
  | .textSince name, _ =>
    have same := Cursor.since_congr beside.cursor (beside.mark name)
    Step.runsAlike_plain (fun _ => rfl) (Bool.and_true still)
      (Step.agree_tell (congrArg (Answer.text ∘ Utf8.lossy) same) fun _ => rfl) beside
  | .capture held step, ignores => by
    obtain ⟨_, inside, after, alike⟩ := Step.runsAlike beside step ignores
    -- The text of a capture is what was passed, which is the same if the same is left.
    have same := Cursor.since_congr after.cursor beside.cursor
    refine Step.runsAlike_around _ (fun _ => rfl) inside (Bool.and_true _) ⟨alike, ?_⟩ after
    rw [Cursor.capture, Cursor.capture, Cursor.textSince, Cursor.textSince, alike, same]
  | .allOf steps, ignores => by
    obtain ⟨_, inside, after, alike⟩ := Step.runsAlike_until false beside steps ignores
    exact Step.runsAlike_around _ (fun _ => rfl) inside (Bool.and_true _)
      (all_succeeded_congr alike) after
  | .anyOf steps, ignores => by
    obtain ⟨_, inside, after, alike⟩ := Step.runsAlike_until true beside steps ignores
    exact Step.runsAlike_around _ (fun _ => rfl) inside (Bool.and_true _)
      (any_succeeded_congr alike) after

/-- So do such steps in a row, up to one that succeeds or fails. -/
theorem Step.runsAlike_until {gap : Int} {still : Bool} {first second : Session}
    (success : Bool) (beside : first.Beside gap still second) : (steps : List Step) →
      Step.allEvery Step.ignoresPassed steps = true →
      ∃ last, Parallel gap still (Step.traceUntil success first steps)
          (Step.traceUntil success second steps) last ∧
        (Step.runUntil success first steps).session.Beside gap last
          (Step.runUntil success second steps).session ∧
        (Step.runUntil success first steps).report.map Report.succeeded =
          (Step.runUntil success second steps).report.map Report.succeeded
  | [], _ => ⟨still, .nil still, beside, rfl⟩
  | step :: steps, ignores => by
    rw [Step.allEvery, Bool.and_eq_true] at ignores
    obtain ⟨middle, front, between, alike⟩ := Step.runsAlike beside step ignores.1
    rw [Step.traceUntil, Step.traceUntil, Step.runUntil, Step.runUntil, ← alike]
    -- Both runs stop behind the same step, or both go on.
    split
    · exact ⟨middle, front.append (.nil middle), between, congrArg ([·]) alike⟩
    · obtain ⟨last, back, after, reports⟩ := Step.runsAlike_until success between steps ignores.2
      exact ⟨last, front.append back, after, congrArg₂ List.cons alike reports⟩

end

/-- Steps that ignore what was passed run in parallel where the same is left. -/
theorem parallel_run {gap : Int} {still : Bool} {first second : Session}
    (beside : first.Beside gap still second) {steps : List Step}
    (ignores : Step.allEvery Step.ignoresPassed steps = true) :
    ∃ last, Parallel gap still (trace first steps) (trace second steps) last ∧
      (run first steps).session.Beside gap last (run second steps).session := by
  -- The induction is on the steps, each of which finds what the one before it has left.
  induction steps generalizing first second still with
  | nil => exact ⟨still, .nil still, beside⟩
  | cons step steps ih =>
    rw [Step.allEvery, Bool.and_eq_true] at ignores
    obtain ⟨_, front, between, _⟩ := Step.runsAlike beside step ignores.1
    obtain ⟨last, back, after⟩ := ih between ignores.2
    exact ⟨last, front.append back, after⟩

/--
What a run does depends on what is left at its cursors, and not on what comes before them.

Only the offsets that are told differ, and until a step goes to a saved cursor they stay apart by
the gap at the beginning. What a trace tells is what the run reports.
-/
theorem run_ignores_passed (steps : List Step)
    (ignores : Step.allEvery Step.ignoresPassed steps = true) :
    (∀ first second : Session, first.SameLeft second →
      (∃ last, Parallel (first.cursor.offset - second.cursor.offset) true
        (trace first steps) (trace second steps) last) ∧
        (run first steps).session.SameLeft (run second steps).session) ∧
      (∀ (buffer : Bytes) (place : Nat),
        let within : Session := ⟨⟨buffer, place⟩, []⟩
        let fresh := Session.start (buffer.drop place)
        (∃ last, Parallel place true (trace within steps) (trace fresh steps) last) ∧
          (run within steps).session.SameLeft (run fresh steps).session) ∧
      ∀ session : Session,
        (trace session steps).map Event.report = Report.allUnfolded (run session steps).report := by
  have alike : ∀ first second : Session, first.SameLeft second →
      (∃ last, Parallel (first.cursor.offset - second.cursor.offset) true
        (trace first steps) (trace second steps) last) ∧
        (run first steps).session.SameLeft (run second steps).session := by
    intro first second same
    -- At the beginning the gap is the one between the two offsets.
    obtain ⟨last, parallel, after⟩ := parallel_run ⟨same, fun _ => rfl⟩ ignores
    exact ⟨⟨last, parallel⟩, after.toSameLeft⟩
  refine ⟨alike, ?_, fun session => reports_trace session steps⟩
  intro buffer place within fresh
  -- A new cursor has offset zero, so that the gap is the place in the buffer.
  have same : within.SameLeft fresh := ⟨(Cursor.rest_ofBytes _).symm, .nil⟩
  have gap : (within.cursor.offset : Int) - fresh.cursor.offset = place := Int.sub_zero _
  rw [← gap]
  exact alike within fresh same

/-- A run that captures, demands and goes back does behind two bytes what it does without them. -/
theorem run_ignores_passed_letter :
    let steps : List Step := [.save "m", .capture "" (.move .acceptBlanks), .look .offset,
      .move (.require (.exactly "y")), .revisit "m", .textSince "m"]
    let within : Session := ⟨⟨Utf8.encode "é x", 2⟩, []⟩
    let fresh := Session.start ((Utf8.encode "é x").drop 2)
    Step.allEvery Step.ignoresPassed steps = true ∧
      (∃ last, Parallel 2 true (trace within steps) (trace fresh steps) last) ∧
      (run within steps).session.SameLeft (run fresh steps).session := by
  intro steps within fresh
  have ignores : Step.allEvery Step.ignoresPassed steps = true := by decide
  exact ⟨ignores, (run_ignores_passed steps ignores).2.1 (Utf8.encode "é x") 2⟩

end Script

end RuneScan
