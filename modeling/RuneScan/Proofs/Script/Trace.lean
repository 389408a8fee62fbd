import RuneScan.Script.Step

/-! What happens in a run, one event after another, with those inside of captures and groups. -/

namespace RuneScan.Script

/-- A step that has been run. -/
structure Event where
  /-- The step itself. -/
  step : Step
  /-- The report on it. -/
  report : Report

mutual

/-- What happens while a step runs, with the steps inside of it before the step itself. -/
def Step.trace (session : Session) (step : Step) : List Event :=
  -- A step ends after all that happens inside of it.
  (match step with
    | .capture _ step => step.trace session
    | .allOf steps => Step.traceUntil false session steps
    | .anyOf steps => Step.traceUntil true session steps
    | _ => []) ++ [⟨step, (step.run session).report⟩]

/-- What happens while steps run in order, up to the first whose success is as given. -/
def Step.traceUntil (success : Bool) (session : Session) : List Step → List Event
  | [] => []
  | step :: steps =>
    let ran := step.run session
    step.trace session ++
      -- The steps behind it are not run, and so nothing of them happens.
      if ran.report.succeeded == success then []
      else Step.traceUntil success ran.session steps

end

/-- What happens while a script runs, step after step. -/
def trace (session : Session) : List Step → List Event
  | [] => []
  -- Each step finds the session that the one before it left.
  | step :: steps => step.trace session ++ trace (step.run session).session steps

mutual

/-- A report behind the reports on the steps inside of it, each of them unfolded. -/
def Report.unfolded : Report → List Report
  | .single response reached => [.single response reached]
  -- What is inside comes before the report on it, as it does in a trace.
  | .capture held reached text inner => inner.unfolded ++ [.capture held reached text inner]
  | .group held reached inner => Report.allUnfolded inner ++ [.group held reached inner]

/-- Several reports, one after another, each of them unfolded. -/
def Report.allUnfolded : List Report → List Report
  | [] => []
  | report :: reports => report.unfolded ++ Report.allUnfolded reports

end

mutual

/-- What happens while a step runs is what its report tells. -/
theorem Step.reports_trace (session : Session) : (step : Step) →
    (step.trace session).map Event.report = (step.run session).report.unfolded
  | .look _ | .move _ | .save _ | .place _ _ | .revisit _ | .since _ | .textSince _ | .sameAs _ =>
    rfl
  -- What happens inside is what the reports inside tell.
  | .capture _ step => by
    rw [Step.trace, List.map_append, Step.reports_trace session step]
    rfl
  | .allOf steps => by
    rw [Step.trace, List.map_append, Step.reports_traceUntil false session steps]
    rfl
  | .anyOf steps => by
    rw [Step.trace, List.map_append, Step.reports_traceUntil true session steps]
    rfl

/-- So it is for steps in a row, up to one that succeeds or fails. -/
theorem Step.reports_traceUntil (success : Bool) (session : Session) : (steps : List Step) →
    (Step.traceUntil success session steps).map Event.report =
      Report.allUnfolded (Step.runUntil success session steps).report
  | [] => rfl
  | step :: steps => by
    have first := Step.reports_trace session step
    rw [Step.traceUntil, Step.runUntil, List.map_append, first]
    -- Steps that are not run are neither traced nor reported on.
    split
    · rfl
    · rw [Step.reports_traceUntil success _ steps]
      rfl

end

/-- What happens while a script runs is what its reports tell. -/
theorem reports_trace (session : Session) (steps : List Step) :
    (trace session steps).map Event.report = Report.allUnfolded (run session steps).report := by
  -- The induction is on the steps, each of which finds what the one before it has left.
  induction steps generalizing session with
  | nil => rfl
  | cons step steps ih =>
    rw [trace, List.map_append, Step.reports_trace, ih]
    rfl

end RuneScan.Script
