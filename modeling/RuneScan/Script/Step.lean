import RuneScan.Script.Look
import RuneScan.Script.Move

/-! Scripts are steps at a cursor, with marks to go back to, captures and groups. -/

namespace RuneScan.Script

/-- A step of a script. -/
inductive Step where
  /-- Looks at what follows. -/
  | look (what : Look)
  /-- Leads the cursor on. -/
  | move (what : Move)
  /-- Saves the cursor under a name, in place of a cursor saved under it before. -/
  | save (name : String)
  /-- Saves the beginning of a buffer under a name. -/
  | place (name : String) (buffer : Bytes)
  /-- Goes to a saved cursor, which may belong to another buffer. -/
  | revisit (name : String)
  /-- Gives the bytes passed since a saved cursor. -/
  | since (name : String)
  /-- Gives the text passed since a saved cursor. -/
  | textSince (name : String)
  /-- Compares the cursor with a saved one. -/
  | sameAs (name : String)
  /-- Runs a step, and replaces a text by what that step has passed, provided that it succeeds. -/
  | capture (held : String) (step : Step)
  /-- Runs steps as long as they succeed. -/
  | allOf (steps : List Step)
  /-- Runs steps until one succeeds. -/
  | anyOf (steps : List Step)

/-- What a step changes. -/
structure Session where
  /-- Where the script stands. -/
  cursor : Cursor
  /-- The saved cursors with their names, latest first. -/
  marks : List (String × Cursor)

namespace Session

/-- The cursor last saved under a name, or the present one if there is none. -/
def mark (session : Session) (name : String) : Cursor :=
  -- A name that was never saved stands for the place where the script is.
  (session.marks.lookup name).getD session.cursor

/-- Saves a cursor under a name. -/
def save (session : Session) (name : String) (cursor : Cursor) : Session :=
  -- The latest cursor of a name is found first.
  { session with marks := (name, cursor) :: session.marks }

/-- Goes to a cursor. -/
def goTo (session : Session) (cursor : Cursor) : Session := { session with cursor := cursor }

end Session

/-- What is reported of a step, always with the cursor after it. -/
inductive Report where
  /-- A step by itself. -/
  | single (response : Response) (reached : Cursor)
  /-- A capture, with the text it ends up with and the report of its step. -/
  | capture (held : Bool) (reached : Cursor) (text : String) (inner : Report)
  /-- A group, with the reports of those of its steps that were run. -/
  | group (held : Bool) (reached : Cursor) (inner : List Report)

/-- Whether the step of a report succeeded. -/
def Report.succeeded : Report → Bool
  -- Captures and groups say yes or no.
  | .single response _ => response.answer.succeeded
  | .capture held _ _ _ => held
  | .group held _ _ => held

/-- A report together with the session after it. -/
structure Ran (α : Type) where
  /-- What is reported. -/
  report : α
  /-- The session that the next step finds. -/
  session : Session

/-- A step by itself that leaves the session as it is. -/
def Session.tell (session : Session) (answer : Answer) : Ran Report :=
  ⟨.single (.ofAnswer answer) session.cursor, session⟩

mutual

/-- Runs one step. -/
def Step.run (session : Session) : Step → Ran Report
  | .look what => ⟨.single (what.run session.cursor) session.cursor, session⟩
  | .move what =>
    let arrival := what.run session.cursor
    ⟨.single arrival.response arrival.cursor, session.goTo arrival.cursor⟩
  | .save name => (session.save name session.cursor).tell .nothing
  | .place name buffer => (session.save name (Cursor.ofBytes buffer)).tell .nothing
  | .revisit name => (session.goTo (session.mark name)).tell .nothing
  | .since name => session.tell (.bytes (session.cursor.since (session.mark name)))
  | .textSince name => session.tell (.text (session.cursor.textSince (session.mark name)))
  | .sameAs name => session.tell (.flag (session.cursor = session.mark name))
  | .capture held step =>
    -- A step that fails is not undone, neither its movement nor its marks.
    let ran := step.run session
    let text := session.cursor.capture held ran.report.succeeded ran.session.cursor
    ⟨.capture ran.report.succeeded ran.session.cursor text ran.report, ran.session⟩
  | .allOf steps =>
    let ran := Step.runUntil false session steps
    ⟨.group (ran.report.all (·.succeeded)) ran.session.cursor ran.report, ran.session⟩
  | .anyOf steps =>
    let ran := Step.runUntil true session steps
    ⟨.group (ran.report.any (·.succeeded)) ran.session.cursor ran.report, ran.session⟩

/-- Runs steps in order, up to the first whose success is as given. -/
def Step.runUntil (success : Bool) (session : Session) : List Step → Ran (List Report)
  | [] => ⟨[], session⟩
  | step :: steps =>
    let ran := step.run session
    if ran.report.succeeded == success then ⟨[ran.report], ran.session⟩
    else
      let later := Step.runUntil success ran.session steps
      ⟨ran.report :: later.report, later.session⟩

end

/-- Runs all steps of a script in order, whether or not they succeed. -/
def run (session : Session) : List Step → Ran (List Report)
  | [] => ⟨[], session⟩
  | step :: steps =>
    -- Each step finds the session that the one before it left.
    let ran := step.run session
    let later := run ran.session steps
    ⟨ran.report :: later.report, later.session⟩

/-- A run reports on each of its steps once. -/
@[simp] theorem length_report_run (session : Session) (steps : List Step) :
    (run session steps).report.length = steps.length := by
  -- No step keeps those behind it from being run.
  induction steps generalizing session with
  | nil => rfl
  | cons step steps ih => rw [run, List.length_cons, List.length_cons, ih]

/-- A session at the beginning of a buffer, with nothing saved. -/
def Session.start (buffer : Bytes) : Session := ⟨Cursor.ofBytes buffer, []⟩

end RuneScan.Script
