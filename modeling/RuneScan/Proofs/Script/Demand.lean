import Mathlib.Data.List.TakeWhile
import RuneScan.Proofs.Cursor.Stride
import RuneScan.Script.Move

/-! A demand tells the truth about the place where it is made, whether or not it is met there. -/

namespace RuneScan

namespace Cursor

/-- A demand for a rune is met by a rune with the answer yes, which is passed. -/
theorem requireBy_eq_ok_iff {cursor next : Cursor} {query : Query} {expected : String}
    {rune : Char} :
    (cursor.requireBy query expected).result = .ok (rune, next) ↔
      query [] cursor.rune = true ∧ cursor.next? = some next ∧ cursor.rune = rune := by
  -- The rune is given where the step over it is made.
  rw [← and_assoc, ← acceptBy?_eq_some_iff, requireBy]
  cases (cursor.acceptBy? query []).result <;> simp [demand, Except.map, and_comm]

/-- A demand for a rune that is not met is reported where it was made. -/
theorem requireBy_eq_error_iff {cursor : Cursor} {query : Query} {expected : String}
    {mismatch : Mismatch} :
    (cursor.requireBy query expected).result = .error mismatch ↔
      (cursor.acceptBy? query []).result = none ∧
        ⟨expected, cursor.encounter, cursor.offset⟩ = mismatch := by
  -- Where no step is made, there is a report instead of a rune.
  rw [requireBy]
  cases (cursor.acceptBy? query []).result <;> simp [demand, Except.map]

/-- The runes that meet a demand, one behind the other, and the report where it is not met. -/
def collectBy (cursor : Cursor) (query : Query) (expected : String) : List Char × Mismatch :=
  match _ : (cursor.requireBy query expected).result with
  | .error mismatch => ([], mismatch)
  | .ok (rune, next) =>
    -- A demand is made again behind each rune that meets it.
    let later := next.collectBy query expected
    (rune :: later.1, later.2)
termination_by cursor.remaining
decreasing_by exact next?_remaining_lt (requireBy_eq_ok_iff.mp ‹_›).2.1

/-- Demanding runes with a property collects them up to the first rune without it. -/
theorem collectBy_ofPred (holds : Char → Bool) (expected : String) (cursor : Cursor) :
    ∃ last, cursor.Passes ((Utf8.runes cursor.rest).takeWhile holds) last ∧
      cursor.collectBy (.ofPred holds) expected =
        ((Utf8.runes cursor.rest).takeWhile holds, ⟨expected, last.encounter, last.offset⟩) := by
  -- The induction follows the demands that are met.
  generalize asks : Query.ofPred holds = query
  fun_induction collectBy cursor query expected with
  | case1 cursor mismatch refused =>
    obtain ⟨stuck, rfl⟩ := requireBy_eq_error_iff.mp refused
    subst asks
    -- Either no rune is left, or the first one lacks the property.
    have nothing : (Utf8.runes cursor.rest).takeWhile holds = [] := by
      cases stepped : cursor.next? with
      | none => rw [next?_eq_none_iff.mp stepped, Utf8.runes_nil, List.takeWhile_nil]
      | some next =>
        have no : ¬ holds cursor.rune = true := by
          intro yes
          rw [acceptBy?_eq_none_iff.mp stuck yes] at stepped
          contradiction
        rw [runes_rest_of_next? stepped, List.takeWhile_cons_of_neg no]
    rw [nothing]
    exact ⟨cursor, Passes.still cursor, rfl⟩
  | case2 cursor rune next met later ih =>
    obtain ⟨yes, stepped, rfl⟩ := requireBy_eq_ok_iff.mp met
    obtain ⟨last, passes, collected⟩ := ih
    subst asks
    have yes : holds cursor.rune = true := yes
    rw [runes_rest_of_next? stepped, List.takeWhile_cons_of_pos yes]
    refine ⟨last, Passes.step stepped passes, ?_⟩
    rw [show later = _ from collected]

/-- Demanding any rune collects all that are left, and the report is about the end. -/
theorem collectBy_any (expected : String) (cursor : Cursor) :
    cursor.collectBy (.ofPred fun _ => true) expected =
      (Utf8.runes cursor.rest,
        ⟨expected, .endOfInput, cursor.offset + cursor.remaining⟩) := by
  -- No rune lacks the property, so the passage goes over all of them.
  obtain ⟨last, passes, collected⟩ := collectBy_ofPred (fun _ => true) expected cursor
  have all : (Utf8.runes cursor.rest).takeWhile (fun _ => true) = Utf8.runes cursor.rest :=
    List.takeWhile_eq_self_iff.mpr fun _ _ => rfl
  rw [all] at passes collected
  have nothing : Utf8.runes last.rest = [] := List.append_right_eq_self.mp passes.runes_rest.symm
  have ended : last.rest = [] := by
    by_contra filled
    rw [Utf8.runes_of_ne_nil filled] at nothing
    contradiction
  -- All that was left is passed where nothing is left any more.
  have place : last.offset = cursor.offset + cursor.remaining := by
    obtain ⟨count, within, rfl⟩ := passes.exists_skip
    have left := length_rest (cursor.skip count)
    rw [ended, List.length_nil, remaining_skip] at left
    rw [offset_skip]
    omega
  rw [collected, encounter, if_pos (atEnd_iff_rest.mpr ended), place]

end Cursor

namespace Script

/-- Something that can be demanded of what follows. -/
inductive Demand where
  /-- A match of a pattern. -/
  | matching (pattern : Pattern)
  /-- A rune out of a set, which is given then. -/
  | oneOf (set : String)
  /-- A rune with the answer yes, which is given then, and goes by the words. -/
  | having (query : Query) (expected : String)

namespace Demand

/-- The move that makes the demand. -/
def requiring : Demand → Move
  | .matching pattern => .require pattern
  | .oneOf set => .requireOneOf set
  | .having query expected => .requireBy query expected

/-- The move that passes the same, but demands nothing. -/
def accepting : Demand → Move
  | .matching pattern => .accept pattern
  | .oneOf set => .accept (.oneOf set)
  | .having query _ => .acceptBy query

/-- The words for what is demanded. -/
def expected : Demand → String
  | .matching pattern => pattern.describe
  | .oneOf set => (Pattern.oneOf set).describe
  | .having _ expected => expected

/-- The step over what is demanded. -/
def step? (start : Cursor) : Demand → Option Cursor
  | .matching pattern => start.accept? pattern
  | .oneOf set => start.accept? (.oneOf set)
  | .having query _ => (start.acceptBy? query []).result

/-- What the demand gives where it is met, which is the rune if it is for a rune. -/
def given (start : Cursor) : Demand → Option Char
  | .matching _ => none
  -- At the end this is the replacement, but no demand is met there.
  | .oneOf _ | .having _ _ => some start.rune

/-- The runes that the query of a demand is asked about, if it has one. -/
def asked (start : Cursor) : Demand → Option (List Char)
  | .matching _ | .oneOf _ => none
  | .having query _ => some (start.acceptBy? query []).asked

/-- Whether a demand is met by what it gives, after its query was asked about the runes told. -/
def MetBy (given : Option Char) (asked : Option (List Char)) : Demand → Prop
  | .matching _ => given = none ∧ asked = none
  | .oneOf set => ∃ rune ∈ set.toList, given = some rune ∧ asked = none
  -- A query is asked about the rune that is given, and about no other.
  | .having query _ => ∃ rune, query [] rune = true ∧ given = some rune ∧ asked = some [rune]

variable (demand : Demand) (start : Cursor)

/-- Without the demand, the move says no more than whether its step leads on. -/
theorem run_accepting : demand.accepting.run start =
    ⟨⟨.flag (demand.step? start).isSome, demand.asked start⟩, (demand.step? start).getD start⟩ := by
  -- Each of the three moves makes the step and asks what that asks.
  cases demand <;> rfl

/-- The demand is by the same step, and adds a rune to a yes and a report to a no. -/
theorem run_requiring : demand.requiring.run start =
    ⟨⟨.demand ((start.demand demand.expected (demand.step? start)).map fun _ =>
      demand.given start), demand.asked start⟩, (demand.step? start).getD start⟩ := by
  -- Whether the step is made decides between a rune and a report.
  cases demand with
  | matching pattern =>
    rw [requiring, Move.run, Cursor.require, step?]
    cases start.accept? pattern <;> rfl
  | oneOf set =>
    rw [requiring, Move.run, Cursor.requireOneOf, Cursor.require, step?]
    cases start.accept? (.oneOf set) <;> rfl
  | having query expected =>
    rw [requiring, Move.run, Cursor.requireBy, step?, asked]
    cases (start.acceptBy? query []).result <;> rfl

/-- What a demand tells of the place where it is made. -/
structure Tells (outcome : Except Mismatch (Option Char)) (asked : Option (List Char))
    (reached : Cursor) : Prop where
  /-- It leads where the cursor is led without the demand. -/
  reached_eq : reached = (demand.accepting.run start).cursor
  /-- It is met where the same is passed without it. -/
  isOk_eq : outcome.isOk = (demand.accepting.run start).response.answer.succeeded
  /-- It asks what is asked without the demand. -/
  asked_eq : asked = (demand.accepting.run start).response.asked
  /-- If it is not met, it stays and reports what was demanded, what stood there and where. -/
  refused : ∀ mismatch, outcome = .error mismatch →
    reached = start ∧ mismatch.expected = demand.expected ∧ mismatch.offset = start.offset ∧
      (mismatch.found = .endOfInput ↔ start.rest = []) ∧
      (start.rest ≠ [] → mismatch.found = .rune (Utf8.read start.rest).rune)
  /-- If it is met by a rune, that was read there, and it is passed by its width. -/
  met : ∀ given, outcome = .ok given → demand.MetBy given asked ∧
    ∀ rune, given = some rune → start.rest ≠ [] ∧ rune = (Utf8.read start.rest).rune ∧
      reached = start.skip (Utf8.read start.rest).width

variable {demand : Demand} {start next : Cursor}

/-- A demand that is met is met by the rune at the cursor, if it is for a rune. -/
theorem metBy_of_step? (stepped : demand.step? start = some next) :
    demand.MetBy (demand.given start) (demand.asked start) ∧
      ∀ rune, demand.given start = some rune →
        rune = (Utf8.read start.rest).rune ∧ start.next? = some next := by
  -- A demand for a rune is met by a step over the rune at the cursor.
  cases demand with
  | matching pattern => exact ⟨⟨rfl, rfl⟩, fun _ gives => nomatch gives⟩
  | oneOf set =>
    obtain ⟨seen, stepped⟩ := Cursor.accept?_eq_some_iff.mp stepped
    rw [Cursor.sees, Bool.and_eq_true, List.contains_iff_mem] at seen
    exact ⟨⟨start.rune, seen.2, rfl, rfl⟩, fun _ gives => ⟨(Option.some.inj gives).symm, stepped⟩⟩
  | having query expected =>
    obtain ⟨yes, stepped⟩ := Cursor.acceptBy?_eq_some_iff.mp stepped
    have heard := Cursor.asked_acceptBy?_of_next? stepped query []
    exact ⟨⟨start.rune, yes, rfl, congrArg some heard⟩,
      fun _ gives => ⟨(Option.some.inj gives).symm, stepped⟩⟩

/-- What stands at a place is the end where nothing is left, and else the rune that is read. -/
theorem encounter_tells (start : Cursor) :
    (start.encounter = .endOfInput ↔ start.rest = []) ∧
      (start.rest ≠ [] → start.encounter = .rune (Utf8.read start.rest).rune) := by
  -- What is met is decided by whether the cursor is at the end.
  rw [Cursor.encounter]
  cases ended : start.atEnd with
  | true => simp [Cursor.atEnd_iff_rest.mp ended]
  | false => simp [Cursor.atEnd_eq_false_iff.mp ended, Cursor.rune, Cursor.reading]

/-- The outcome of a demand tells the truth about the place where it is made. -/
theorem tells (demand : Demand) (start : Cursor) :
    demand.Tells start
      ((start.demand demand.expected (demand.step? start)).map fun _ => demand.given start)
      (demand.asked start) ((demand.step? start).getD start) := by
  -- The demand is met exactly if its step leads on.
  refine ⟨?_, ?_, ?_, ?_, ?_⟩
  · rw [run_accepting]
  · rw [run_accepting]
    cases demand.step? start <;> rfl
  · rw [run_accepting]
  · intro mismatch refused
    cases stepped : demand.step? start with
    | none =>
      rw [stepped] at refused
      -- The report was made at the cursor, where the step has failed.
      cases refused
      exact ⟨rfl, rfl, rfl, encounter_tells start⟩
    | some next =>
      rw [stepped] at refused
      contradiction
  · intro given met
    cases stepped : demand.step? start with
    | none =>
      rw [stepped] at met
      contradiction
    | some next =>
      rw [stepped] at met
      -- What the demand gives was read before the step over it.
      cases met
      obtain ⟨metBy, gives⟩ := metBy_of_step? stepped
      refine ⟨metBy, fun rune given => ?_⟩
      obtain ⟨read, passed⟩ := gives rune given
      obtain ⟨filled, skipped⟩ := Cursor.next?_eq_some_iff.mp passed
      exact ⟨filled, read, skipped.symm⟩

end Demand

/--
A demand tells the truth about the place where it is made.

Where it is not met, the cursor stays and the report says what was demanded, where, and what stands
there. To demand any rune over and over collects all of them, and ends with a report about the end.
-/
theorem demands_tell :
    (∀ (demand : Demand) (start : Cursor),
      let arrival := demand.requiring.run start
      ∃ outcome, arrival.response.answer = .demand outcome ∧
        demand.Tells start outcome arrival.response.asked arrival.cursor) ∧
      (∀ expected cursor, Cursor.collectBy cursor (.ofPred fun _ => true) expected =
        (Utf8.runes cursor.rest, ⟨expected, .endOfInput, cursor.offset + cursor.remaining⟩)) ∧
      ∀ expected text, (Cursor.ofText text).collectBy (.ofPred fun _ => true) expected =
        (text.toList, ⟨expected, .endOfInput, (Utf8.encode text).length⟩) := by
  refine ⟨?_, Cursor.collectBy_any, ?_⟩
  -- The answer of a demand tells its outcome, and the outcome tells the truth.
  · intro demand start arrival
    have runs : arrival = _ := demand.run_requiring start
    rw [runs]
    exact ⟨_, rfl, demand.tells start⟩
  · -- A cursor at the beginning of a text has the bytes of all its runes left.
    intro expected text
    have whole : (Cursor.ofText text).remaining = (Utf8.encode text).length := rfl
    rw [Cursor.collectBy_any, Cursor.rest_ofText, Utf8.runes_encode, whole]
    exact congrArg (fun offset => (text.toList, Mismatch.mk expected .endOfInput offset))
      (Nat.zero_add _)

/-- The replacement is demanded and given where a bad byte stands, and it has the width of that. -/
example :
    let start := (Cursor.ofBytes [0x61, 0xFF, 0xEF, 0xBF, 0xBD]).skip 1
    (start.requireOneOf "\uFFFD").toOption = some ('\uFFFD', start.skip 1) ∧
      ((start.skip 1).requireOneOf "\uFFFD").toOption = some ('\uFFFD', start.skip 4) := by
  decide +kernel

end Script

end RuneScan
