import RuneScan.Proofs.Cursor.Boundary
import RuneScan.Proofs.Cursor.Loops
import RuneScan.Proofs.Script.Invariant

/-! Runs of steps that pass whole runes never come to a place inside of one. -/

namespace RuneScan

namespace Cursor

/-- The step over a rune passes that rune. -/
theorem LeadsTo.of_next? {start place next : Cursor} (leads : start.LeadsTo place)
    (stepped : place.next? = some next) : start.LeadsTo next :=
  leads.trans ⟨_, Passes.single stepped⟩

/-- An accepted match passes runes if the pattern tells capital letters from small ones. -/
theorem LeadsTo.of_accept? {start place next : Cursor} {pattern : Pattern}
    (sensitive : pattern.isCaseSensitive = true) (leads : start.LeadsTo place)
    (accepted : place.accept? pattern = some next) : start.LeadsTo next := by
  cases pattern with
  | exactly text =>
    -- The bytes of the text are encoded runes, which are read one by one.
    obtain ⟨encoded, rfl⟩ := accept?_exactly_eq_some_iff.mp accepted
    exact leads.trans ⟨_, passes_of_encode_prefix encoded⟩
  | anyCase text => contradiction
  | oneOf set => exact leads.of_next? (accept?_eq_some_iff.mp accepted).2

/-- A rune that is accepted because of an answer is passed. -/
theorem LeadsTo.of_acceptBy? {start place next : Cursor} {query : Query} {asked : List Char}
    (leads : start.LeadsTo place) (accepted : (place.acceptBy? query asked).result = some next) :
    start.LeadsTo next :=
  leads.of_next? (acceptBy?_eq_some_iff.mp accepted).2

end Cursor

namespace Script

open Cursor (LeadsTo)

/-- The cursor that a move leads to, unless the move fails. -/
def Move.goal? (start : Cursor) : Move → Option Cursor
  | .advance count => start.advance? count
  | .advanceOver rune => start.advanceOver? rune
  | .next => start.next?
  | .take count => some (start.take count).2
  | .accept pattern => start.accept? pattern
  | .acceptMany pattern => start.acceptMany? pattern
  | .acceptBlank => start.acceptBlank?
  | .acceptBlanks => start.acceptBlanks?
  | .acceptBy query => (start.acceptBy? query []).result
  | .acceptManyBy query => (start.acceptManyBy? query).result
  | .skipToText text => start.skipToText? text
  | .skipToOneOf set => start.skipToOneOf? set
  | .skipUntilBy query => (start.skipUntilBy? query).result
  -- A demand differs from the step that it demands in what it reports only.
  | .require pattern => start.accept? pattern
  | .requireOneOf set => start.accept? (.oneOf set)
  | .requireBy query _ => (start.acceptBy? query []).result

/-- A move leads to its goal, and one that fails stays where it begins. -/
theorem Move.cursor_run (start : Cursor) (move : Move) :
    (move.run start).cursor = (move.goal? start).getD start := by
  -- Demands report on their step, and all other moves are their step.
  cases move with
  | require pattern =>
    rw [Move.run, Move.goal?, Cursor.require]
    cases start.accept? pattern <;> rfl
  | requireOneOf set =>
    rw [Move.run, Move.goal?, Cursor.requireOneOf, Cursor.require]
    cases start.accept? (.oneOf set) <;> rfl
  | requireBy query expected =>
    rw [Move.run, Move.goal?, Cursor.requireBy]
    cases (start.acceptBy? query []).result <;> rfl
  | _ => rfl

/-- Whether a move passes whole runes, wherever it begins. -/
def Move.passesRunes : Move → Bool
  -- Bytes that are merely counted may end anywhere.
  | .advance _ | .advanceOver _ | .take _ => false
  | .accept pattern | .acceptMany pattern | .require pattern => pattern.isCaseSensitive
  | _ => true

/-- A move that passes whole runes leads to where steps over runes lead. -/
theorem Move.leadsTo_goal {start goal : Cursor} {move : Move} (whole : move.passesRunes = true)
    (reached : move.goal? start = some goal) : start.LeadsTo goal := by
  have still := LeadsTo.refl start
  -- A loop passes runes because each of its steps does.
  have rune : ∀ place next, start.LeadsTo place → place.next? = some next → start.LeadsTo next :=
    fun place next leads stepped => leads.of_next? stepped
  cases move with
  | advance | advanceOver | take => contradiction
  | next => exact still.of_next? reached
  | accept pattern => exact still.of_accept? whole reached
  | require pattern => exact still.of_accept? whole reached
  | requireOneOf set => exact still.of_accept? rfl reached
  | acceptMany pattern =>
    obtain ⟨rfl, _⟩ := Cursor.progress?_eq_some_iff.mp reached
    exact Cursor.passAll_keeps (fun _ _ leads accepted => leads.of_accept? whole accepted) still
  | acceptBy query => exact still.of_acceptBy? reached
  | requireBy query expected => exact still.of_acceptBy? reached
  | acceptBlank => exact still.of_acceptBy? reached
  | acceptManyBy query =>
    obtain ⟨rfl, _⟩ := Cursor.progress?_eq_some_iff.mp reached
    exact Cursor.passWhile_keeps rune still
  | acceptBlanks =>
    obtain ⟨rfl, _⟩ := Cursor.progress?_eq_some_iff.mp reached
    exact Cursor.passWhile_keeps rune still
  | skipUntilBy query =>
    obtain ⟨rfl, _⟩ := Cursor.progress?_eq_some_iff.mp reached
    exact Cursor.passUntil_keeps rune still
  | skipToText text =>
    rw [Move.goal?, Cursor.skipToText?_eq] at reached
    obtain ⟨rfl, _⟩ := Cursor.progress?_eq_some_iff.mp reached
    exact Cursor.walkUntil_keeps rune still
  | skipToOneOf set =>
    rw [Move.goal?, Cursor.skipToOneOf?_eq] at reached
    obtain ⟨rfl, _⟩ := Cursor.progress?_eq_some_iff.mp reached
    exact Cursor.walkUntil_keeps rune still

/-- A move that passes whole runes ends where steps over runes lead, whether or not it fails. -/
theorem Move.leadsTo_run {start : Cursor} {move : Move} (whole : move.passesRunes = true) :
    start.LeadsTo (move.run start).cursor := by
  -- A move that fails has gone nowhere.
  rw [Move.cursor_run]
  cases reached : move.goal? start with
  | none => exact LeadsTo.refl start
  | some goal => exact Move.leadsTo_goal whole reached

/-- Whether a step by itself passes whole runes, or goes to a place that a run has saved. -/
def Step.passesRunes : Step → Bool
  | .move what => what.passesRunes
  -- A place that is opened may belong to another buffer.
  | .place _ _ => false
  | _ => true

/-- Steps that pass whole runes stay on the walk over the runes of a buffer. -/
theorem keeps_walk (buffer : Bytes) :
    Step.Keeps Step.passesRunes (Cursor.ofBytes buffer).LeadsTo := by
  -- Moves are the only steps by which a run comes to a new place.
  refine ⟨?_, ?_⟩
  · exact fun start what whole leads => leads.trans (Move.leadsTo_run whole)
  · intro name opened opens
    contradiction

/--
A run of steps that pass whole runes is at places that steps over the runes of its buffer come to.

It is so after each step. In a text these are the places between runes, and the text since any place
that the run has saved is encoded by exactly the bytes in between.
-/
theorem run_between_runes (buffer : Bytes) (steps : List Step)
    (whole : Step.allEvery Step.passesRunes steps = true) :
    let ran := run (Session.start buffer) steps
    (Cursor.ofBytes buffer).LeadsTo ran.session.cursor ∧
      (∀ report ∈ ran.report, report.Throughout (Cursor.ofBytes buffer).LeadsTo) ∧
      ∀ text, buffer = Utf8.encode text →
        ran.session.cursor.BetweenRunes text ∧
          (∀ report ∈ ran.report, report.Throughout (Cursor.BetweenRunes text)) ∧
          ∀ named ∈ ran.session.marks, named.2.offset ≤ ran.session.cursor.offset →
            Utf8.encode (ran.session.cursor.textSince named.2) =
              ran.session.cursor.since named.2 := by
  intro ran
  -- The run begins on the walk, and no step leaves it.
  have start : (Session.start buffer).All (Cursor.ofBytes buffer).LeadsTo :=
    Session.All.start (LeadsTo.refl _)
  obtain ⟨walk, throughout⟩ := (keeps_walk buffer).run_all start whole
  refine ⟨walk.cursor, throughout, ?_⟩
  rintro text rfl
  -- Walks over the runes of a text come to the places between them.
  have between : ∀ cursor, (Cursor.ofText text).LeadsTo cursor → cursor.BetweenRunes text :=
    fun _ leads => Cursor.leadsTo_ofText_iff.mp leads
  refine ⟨between _ walk.cursor, ?_, ?_⟩
  · exact fun report member => (throughout report member).mono between
  · intro named saved order
    exact Cursor.encode_textSince (between _ (walk.marks named saved)) (between _ walk.cursor) order

/-- A run that marks a place, captures some blanks, goes back and skips ahead is still whole. -/
theorem run_between_runes_rewound :
    let steps : List Step := [.move (.accept (.exactly "é")), .save "m",
      .capture "" (.move .acceptBlanks), .revisit "m", .move (.skipToText "☃")]
    let ran := run (Session.start (Utf8.encode "é 　x☃")) steps
    Step.allEvery Step.passesRunes steps = true ∧ ran.session.cursor.BetweenRunes "é 　x☃" ∧
      (∀ report ∈ ran.report, report.Throughout (Cursor.BetweenRunes "é 　x☃")) ∧
      ∀ named ∈ ran.session.marks, named.2.offset ≤ ran.session.cursor.offset →
        Utf8.encode (ran.session.cursor.textSince named.2) = ran.session.cursor.since named.2 := by
  intro steps ran
  have whole : Step.allEvery Step.passesRunes steps = true := by decide
  exact ⟨whole, (run_between_runes _ steps whole).2.2 _ rfl⟩

end Script

end RuneScan
