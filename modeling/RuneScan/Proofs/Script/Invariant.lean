import RuneScan.Script.Step

/-! What the moves of a run keep is kept by the run, also inside of its captures and groups. -/

namespace RuneScan.Script

mutual

/-- Whether a step has a property, or all of the steps inside of it, if there are such. -/
def Step.every (fine : Step → Bool) : Step → Bool
  | .capture _ step => step.every fine
  | .allOf steps => Step.allEvery fine steps
  | .anyOf steps => Step.allEvery fine steps
  -- A step with none inside is asked about by itself.
  | step => fine step

/-- Whether every one of several steps has a property, or all of the steps inside of it. -/
def Step.allEvery (fine : Step → Bool) : List Step → Bool
  | [] => true
  | step :: steps => step.every fine && Step.allEvery fine steps

end

mutual

/-- What is so of all steps is so of a step, and of the steps inside of it. -/
theorem Step.every_of_forall {fine : Step → Bool} (all : ∀ step, fine step = true) :
    (step : Step) → step.every fine = true
  | .look _ | .move _ | .save _ | .place _ _ | .revisit _ | .since _ | .textSince _ | .sameAs _ =>
    all _
  -- A capture or a group is told by the steps inside of it alone.
  | .capture _ step => Step.every_of_forall all step
  | .allOf steps => Step.allEvery_of_forall all steps
  | .anyOf steps => Step.allEvery_of_forall all steps

/-- So it is of each of several steps. -/
theorem Step.allEvery_of_forall {fine : Step → Bool} (all : ∀ step, fine step = true) :
    (steps : List Step) → Step.allEvery fine steps = true
  | [] => rfl
  | step :: steps => by
    rw [Step.allEvery, Step.every_of_forall all step, Step.allEvery_of_forall all steps]
    rfl

end

/-- Every cursor of a session has a property. -/
structure Session.All (holds : Cursor → Prop) (session : Session) : Prop where
  /-- The cursor where the script stands has it. -/
  cursor : holds session.cursor
  /-- Each cursor that was saved has it. -/
  marks : ∀ named ∈ session.marks, holds named.2

/-- At the beginning there is one cursor, and nothing is saved. -/
theorem Session.All.start {holds : Cursor → Prop} {buffer : Bytes}
    (now : holds (Cursor.ofBytes buffer)) : (Session.start buffer).All holds :=
  -- The other cursors are those of an empty list.
  ⟨now, List.forall_mem_nil _⟩

/-- What is so of every cursor is still so if less is asked. -/
theorem Session.All.mono {holds weaker : Cursor → Prop} {session : Session}
    (weaken : ∀ cursor, holds cursor → weaker cursor) (all : session.All holds) :
    session.All weaker :=
  -- Each cursor is weakened by itself.
  ⟨weaken _ all.cursor, fun named saved => weaken _ (all.marks named saved)⟩

/-- A cursor that is looked up is the present one or has been saved. -/
theorem Session.All.mark {holds : Cursor → Prop} {session : Session} (all : session.All holds)
    (name : String) : holds (session.mark name) := by
  -- The look-up finds one of the saved cursors, or it stays with the present one.
  rw [Session.mark]
  cases found : session.marks.lookup name with
  | none => exact all.cursor
  | some saved =>
    obtain ⟨before, after, split, _⟩ := List.lookup_eq_some_iff.mp found
    exact all.marks (name, saved) (by rw [split]; simp)

/-- The cursor is as it should be after a step, and after all of the steps inside of it. -/
inductive Report.Throughout (holds : Cursor → Prop) : Report → Prop where
  /-- A step by itself. -/
  | single {response : Response} {reached : Cursor} (after : holds reached) :
      Throughout holds (.single response reached)
  /-- A capture, and the step inside of it. -/
  | capture {held : Bool} {reached : Cursor} {text : String} {inner : Report}
      (after : holds reached) (within : Throughout holds inner) :
      Throughout holds (.capture held reached text inner)
  /-- A group, and the steps inside of it. -/
  | group {held : Bool} {reached : Cursor} {inner : List Report} (after : holds reached)
      (within : ∀ report ∈ inner, Throughout holds report) :
      Throughout holds (.group held reached inner)

/-- What is so throughout a step is still so if less is asked. -/
theorem Report.Throughout.mono {holds weaker : Cursor → Prop} {report : Report}
    (weaken : ∀ cursor, holds cursor → weaker cursor) (all : report.Throughout holds) :
    report.Throughout weaker := by
  -- The induction is on the reports of the steps inside.
  induction all with
  | single after => exact .single (weaken _ after)
  | capture after _ ih => exact .capture (weaken _ after) ih
  | group after _ ih => exact .group (weaken _ after) ih

/-- Steps of a kind lead from cursors that have a property to cursors that have it. -/
structure Step.Keeps (fine : Step → Bool) (holds : Cursor → Prop) : Prop where
  /-- A move leads to such a cursor from each other one. -/
  move : ∀ start what, fine (.move what) = true → holds start → holds (what.run start).cursor
  /-- The beginning of a buffer is such a cursor. -/
  place : ∀ name buffer, fine (.place name buffer) = true → holds (Cursor.ofBytes buffer)

section Keeps

variable {fine : Step → Bool} {holds : Cursor → Prop}

mutual

/-- What moves keep, and buffers begin with, is kept by a step, and by the steps inside of it. -/
theorem Step.Keeps.run (keeps : Step.Keeps fine holds) {session : Session}
    (all : session.All holds) : (step : Step) → step.every fine = true →
      (step.run session).session.All holds ∧ (step.run session).report.Throughout holds
  | .move what, kind => by
    have after := keeps.move _ what kind all.cursor
    exact ⟨⟨after, all.marks⟩, .single after⟩
  | .place name buffer, kind =>
    ⟨⟨all.cursor, List.forall_mem_cons.mpr ⟨keeps.place name buffer kind, all.marks⟩⟩,
      .single all.cursor⟩
  -- A step that saves a cursor adds one that has the property to the others.
  | .save _, _ =>
    ⟨⟨all.cursor, List.forall_mem_cons.mpr ⟨all.cursor, all.marks⟩⟩, .single all.cursor⟩
  | .revisit name, _ => ⟨⟨all.mark name, all.marks⟩, .single (all.mark name)⟩
  | .look _, _ | .since _, _ | .textSince _, _ | .sameAs _, _ => ⟨all, .single all.cursor⟩
  -- What is inside of a capture or a group is run by the same rules.
  | .capture _ step, kind => by
    obtain ⟨after, inside⟩ := keeps.run all step kind
    exact ⟨after, .capture after.cursor inside⟩
  | .allOf steps, kind => by
    obtain ⟨after, inside⟩ := keeps.runUntil false all steps kind
    exact ⟨after, .group after.cursor inside⟩
  | .anyOf steps, kind => by
    obtain ⟨after, inside⟩ := keeps.runUntil true all steps kind
    exact ⟨after, .group after.cursor inside⟩

/-- So it is by steps in a row, up to one that succeeds or fails. -/
theorem Step.Keeps.runUntil (keeps : Step.Keeps fine holds) (success : Bool) {session : Session}
    (all : session.All holds) : (steps : List Step) → Step.allEvery fine steps = true →
      (Step.runUntil success session steps).session.All holds ∧
        ∀ report ∈ (Step.runUntil success session steps).report, report.Throughout holds
  | [], _ => ⟨all, List.forall_mem_nil _⟩
  | step :: steps, kind => by
    rw [Step.allEvery, Bool.and_eq_true] at kind
    -- The others, if they are run at all, find what the first one has left.
    obtain ⟨after, first⟩ := keeps.run all step kind.1
    rw [Step.runUntil]
    split
    · exact ⟨after, List.forall_mem_singleton.mpr first⟩
    · obtain ⟨last, later⟩ := keeps.runUntil success after steps kind.2
      exact ⟨last, List.forall_mem_cons.mpr ⟨first, later⟩⟩

end

/-- What steps of a kind keep is kept by a run of such steps. -/
theorem Step.Keeps.run_all (keeps : Step.Keeps fine holds) {session : Session}
    (all : session.All holds) {steps : List Step} (kind : Step.allEvery fine steps = true) :
    (Script.run session steps).session.All holds ∧
      ∀ report ∈ (Script.run session steps).report, report.Throughout holds := by
  -- The induction is on the steps, each of which finds the session that the one before it left.
  induction steps generalizing session with
  | nil => exact ⟨all, List.forall_mem_nil _⟩
  | cons step steps ih =>
    rw [Step.allEvery, Bool.and_eq_true] at kind
    obtain ⟨after, first⟩ := keeps.run all step kind.1
    obtain ⟨last, later⟩ := ih after kind.2
    exact ⟨last, List.forall_mem_cons.mpr ⟨first, later⟩⟩

end Keeps

end RuneScan.Script
