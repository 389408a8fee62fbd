import RuneScan.Cursor.Mark
import RuneScan.Proofs.Checked.Basic
import RuneScan.Proofs.Cursor.Stride

/-! Cursors that compute with machine numbers and slices never come to a fault. -/

namespace RuneScan

/-- A cursor fits if it stands within its buffer, which takes no more than half of all addresses. -/
structure Cursor.Fits (cursor : Cursor) : Prop where
  /-- No more has been passed than there is. -/
  inside : cursor.InBuffer
  /-- Places in the buffer are machine numbers. -/
  bounded : cursor.buffer.length < 2 ^ 63

/-- A cursor that has skipped bytes of the rest still fits. -/
theorem Cursor.Fits.skip {cursor : Cursor} {count : Nat} (fits : cursor.Fits)
    (within : count ≤ cursor.remaining) : (cursor.skip count).Fits :=
  -- It is in the same buffer.
  ⟨fits.inside.skip within, fits.bounded⟩

namespace Checked

open Cursor (Walk)

/-- The bytes that the cursor has not passed. -/
def rest (cursor : Cursor) : Checked Bytes :=
  slice cursor.buffer cursor.offset cursor.buffer.length

/-- How many bytes the cursor has not passed. -/
def remaining (cursor : Cursor) : Checked Nat := sub cursor.buffer.length cursor.offset

/-- Whether a line ends at the cursor, be it by a break or because nothing follows. -/
def atLineEnd (cursor : Cursor) : Checked Bool := do
  match ← rest cursor with
  | [] => return true
  | byte :: _ => return byte == 0x0A || byte == 0x0D

/-- The next bytes, at most the given number of them. -/
def peek (cursor : Cursor) (count : Nat) : Checked Bytes := do
  let left ← rest cursor
  -- The count may be any machine number, so it is brought down to what there is.
  slice left 0 (min count left.length)

/-- The next byte, or zero at the end. -/
def byte (cursor : Cursor) : Checked UInt8 := return (← rest cursor).headD 0

/-- What is read at the cursor. -/
def reading (cursor : Cursor) : Checked Utf8.Reading := do read (← rest cursor)

/-- The rune at the cursor, or the replacement where there is none. -/
def rune (cursor : Cursor) : Checked Char := return (← reading cursor).rune

/-- The cursor after a number of bytes that must not exceed the remaining ones. -/
def skip (cursor : Cursor) (count : Nat) : Checked Cursor :=
  return { cursor with offset := ← add cursor.offset count }

/-- The cursor after a number of bytes, unless fewer remain. -/
def advance? (cursor : Cursor) (count : Nat) : Checked (Option Cursor) := do
  -- The comparison is with what is left, so that no sum is formed before it.
  if (← remaining cursor) < count then return none else return some (← skip cursor count)

/-- The cursor after the rune that it stands at, unless it is at the end. -/
def next? (cursor : Cursor) : Checked (Option Cursor) := do
  let standing ← reading cursor
  -- Only at the end is there nothing to step over.
  if standing.width = 0 then return none else advance? cursor standing.width

/-- The next bytes, at most the given number of them, and the cursor after them. -/
def take (cursor : Cursor) (count : Nat) : Checked (Bytes × Cursor) := do
  let taken ← peek cursor count
  -- The sum is not preceded by any test, because the bytes have been seen.
  return (taken, ← skip cursor taken.length)

/-- The bytes passed since an earlier place. -/
def since (cursor mark : Cursor) : Checked Bytes := do
  let before ← remaining mark
  let now ← remaining cursor
  -- A mark with less behind it than the cursor has makes for a difference of zero.
  slice (← rest mark) 0 (before - now)

/-- What stands at the cursor. -/
def encounter (cursor : Cursor) : Checked Encounter :=
  if cursor.atEnd then return .endOfInput else return .rune (← rune cursor)

/-- Whether a pattern matches where the cursor stands. -/
def sees (cursor : Cursor) : Pattern → Checked Bool
  | .exactly text => return (Utf8.encode text).isPrefixOf (← rest cursor)
  | .anyCase text => do
    -- Less than the text may be left, so that fewer bytes are compared.
    equalAnyCase (← peek cursor (Utf8.encode text).length) (Utf8.encode text)
  | .oneOf set => if cursor.atEnd then return false else return set.toList.contains (← rune cursor)

/-- Asks about the rune at the cursor, after the given runes. -/
def seesBy (cursor : Cursor) (query : Query) (asked : List Char) : Checked (Inquiry Bool) :=
  if cursor.atEnd then return ⟨false, []⟩
  else do
    let standing ← rune cursor
    return ⟨query asked standing, [standing]⟩

/-- The cursor after what a pattern stands for, whether or not it matches. -/
def stepOver? (cursor : Cursor) : Pattern → Checked (Option Cursor)
  | .exactly text | .anyCase text => advance? cursor (Utf8.encode text).length
  | .oneOf _ => next? cursor

/-- The cursor after the match of a pattern, unless there is none. -/
def accept? (cursor : Cursor) (pattern : Pattern) : Checked (Option Cursor) := do
  if ← sees cursor pattern then stepOver? cursor pattern else return none

/-- The cursor after the rune that it stands at, if the answer for that rune is yes. -/
def acceptBy? (cursor : Cursor) (query : Query) (asked : List Char) :
    Checked (Inquiry (Option Cursor)) := do
  let look ← seesBy cursor query asked
  let next ← if look.result then next? cursor else pure none
  return ⟨next, look.asked⟩

/-- Passes matches of a pattern, one after another, as many as there are. -/
def passAll (cursor : Cursor) (pattern : Pattern) (moved : Bool) : Checked Walk := do
  match ← accept? cursor pattern with
  | none => return ⟨moved, cursor⟩
  | some next =>
    -- A match of nothing would be found again and again.
    if next.remaining < cursor.remaining then passAll next pattern true else throw .endless
termination_by cursor.remaining

/-- Passes matches of a pattern, unless that is a text with nothing in it. -/
def acceptMany (cursor : Cursor) (pattern : Pattern) : Checked Walk :=
  -- A match of nothing would be found for ever.
  if pattern.isEmpty then return ⟨false, cursor⟩ else passAll cursor pattern false

/-- Passes runes with the answer yes, up to the first one with the answer no. -/
def passWhile (cursor : Cursor) (query : Query) (asked : List Char) (moved : Bool) :
    Checked (Inquiry Walk) := do
  let step ← acceptBy? cursor query asked
  match step.result with
  -- A no ends the loop, and its rune is told as one that was asked about.
  | none => return ⟨⟨moved, cursor⟩, step.asked⟩
  | some next =>
    if next.remaining < cursor.remaining then
      let later ← passWhile next query (step.asked ++ asked) true
      return ⟨later.result, step.asked ++ later.asked⟩
    else throw .endless
termination_by cursor.remaining

/-- Passes runes with the answer no, up to the first one with the answer yes. -/
def passUntil (cursor : Cursor) (query : Query) (asked : List Char) (moved : Bool) :
    Checked (Inquiry Walk) :=
  if cursor.atEnd then return ⟨⟨moved, cursor⟩, []⟩
  else do
    let look ← seesBy cursor query asked
    if look.result then return ⟨⟨moved, cursor⟩, look.asked⟩
    else
      match ← next? cursor with
      -- The loop would ask about the same rune again.
      | none => throw .endless
      | some next =>
        if next.remaining < cursor.remaining then
          let later ← passUntil next query (look.asked ++ asked) true
          return ⟨later.result, look.asked ++ later.asked⟩
        else throw .endless
termination_by cursor.remaining

/-- Passes all that comes before a place found in the rest, or all of it. -/
def jumpTo (cursor : Cursor) (found : Option Nat) : Checked Walk := do
  let left ← remaining cursor
  -- Nothing but the search vouches for the place that it has found.
  let count := found.getD left
  return ⟨decide (0 < count), ← skip cursor count⟩

/-- Passes all that comes before a text. -/
def skipToText (cursor : Cursor) (text : String) : Checked Walk := do
  jumpTo cursor (Bytes.occurrence? (Utf8.encode text) (← rest cursor))

/-- Passes all that comes before a rune out of a set. -/
def skipToOneOf (cursor : Cursor) (set : String) : Checked Walk :=
  let wanted := Utf8.encode set
  -- For so few bytes of ASCII there is a search by bytes.
  if Bytes.isAscii wanted && 1 ≤ wanted.length && wanted.length ≤ 3 then do
    jumpTo cursor (Bytes.anyOf? wanted (← rest cursor))
  else return (← passUntil cursor (.ofPred fun rune => set.toList.contains rune) [] false).result

/-- The cursor that a step led to, or the report that its demand was not met here. -/
def demand (cursor : Cursor) (expected : String) (stepped : Option Cursor) :
    Checked (Except Mismatch Cursor) :=
  match stepped with
  | some next => return .ok next
  -- What stands at the cursor is looked at only for the report.
  | none => return .error ⟨expected, ← encounter cursor, cursor.offset⟩

/-- The cursor after the match of a pattern, which has to be there. -/
def require (cursor : Cursor) (pattern : Pattern) : Checked (Except Mismatch Cursor) := do
  demand cursor pattern.describe (← accept? cursor pattern)

/-- The rune at the cursor, which has to be among those of a text, and the cursor after it. -/
def requireOneOf (cursor : Cursor) (set : String) : Checked (Except Mismatch (Char × Cursor)) := do
  -- The rune is looked at before it is known to be wanted, also at the end.
  let standing ← rune cursor
  return (← require cursor (.oneOf set)).map fun next => (standing, next)

/-- The rune at the cursor, which has to have the answer yes, and the cursor after it. -/
def requireBy (cursor : Cursor) (query : Query) (expected : String) :
    Checked (Inquiry (Except Mismatch (Char × Cursor))) := do
  -- The rune that is given is read before the query is asked about it.
  let standing ← rune cursor
  let step ← acceptBy? cursor query []
  let outcome ← demand cursor expected step.result
  return ⟨outcome.map fun next => (standing, next), step.asked⟩

/-- How far a walk has come, told from where it began. -/
def walked (start : Cursor) (moved : Bool) (reached : Cursor) : Walk :=
  -- The flag is kept once it is set.
  ⟨moved || decide (start.offset < reached.offset), reached⟩

/-- A walk that stays where it began has not moved. -/
theorem walked_self (start : Cursor) (moved : Bool) :
    walked start moved start = ⟨moved, start⟩ := by
  -- The offset is not less than itself.
  simp [walked]

/-- A walk from a cursor that has not been moved yet tells whether it passes anything. -/
theorem walked_skip (start : Cursor) (count : Nat) :
    walked start false (start.skip count) = ⟨decide (0 < count), start.skip count⟩ := by
  -- The offset has grown exactly if the count is positive.
  simp [walked]

/-- A walk that goes on behind a first step has moved. -/
theorem walked_step {start : Cursor} {count : Nat} (positive : 0 < count) (more : Nat)
    (moved : Bool) :
    walked (start.skip count) true ((start.skip count).skip more) =
      walked start moved ((start.skip count).skip more) := by
  -- The end of the walk is beyond its beginning, since the first step is.
  have further : 0 < count + more := Nat.add_pos_left positive more
  simp [walked, further]

section Steps

variable {cursor : Cursor} (fits : cursor.Fits)
include fits

/-- The slice of what is left is within the buffer. -/
theorem rest_eq : rest cursor = .ok cursor.rest := slice_to_end fits.inside

omit fits in
example : rest ⟨[0x61], 2⟩ = .error .outOfBounds := rfl

/-- The number of bytes left is not negative. -/
theorem remaining_eq : remaining cursor = .ok cursor.remaining := sub_eq fits.inside

/-- Whether a line ends is told from what is left. -/
theorem atLineEnd_eq : atLineEnd cursor = .ok cursor.atLineEnd := by
  -- Either nothing is left, or the first byte of it is looked at.
  rw [atLineEnd, rest_eq fits, ok_bind, Cursor.atLineEnd]
  cases cursor.rest <;> rfl

/-- The slice of the next bytes is within what is left. -/
theorem peek_eq (count : Nat) : peek cursor count = .ok (cursor.peek count) := by
  -- Taking more than there is takes all there is.
  rw [peek, rest_eq fits, ok_bind, slice_from_start (Nat.min_le_right ..), Cursor.peek,
    ← List.take_eq_take_min]

/-- The next byte is that of what is left. -/
theorem byte_eq : byte cursor = .ok cursor.byte := by
  rw [byte, rest_eq fits]
  rfl

/-- The reading is that of what is left. -/
theorem reading_eq : reading cursor = .ok cursor.reading := by
  -- Reading what is left has no fault.
  rw [reading, rest_eq fits, ok_bind, read_eq, Cursor.reading]

/-- The rune is that of the reading. -/
theorem rune_eq : rune cursor = .ok cursor.rune := by
  rw [rune, reading_eq fits]
  rfl

/-- An offset within the buffer is a machine number. -/
theorem skip_eq {count : Nat} (within : count ≤ cursor.remaining) :
    skip cursor count = .ok (cursor.skip count) := by
  -- The sum is that of the skipped cursor, which fits too.
  have order : cursor.offset + count ≤ cursor.buffer.length := (fits.skip within).inside
  have bounded := fits.bounded
  rw [skip, add_eq (by omega)]
  rfl

/-- A step over bytes is made where they remain. -/
theorem advance?_eq (count : Nat) : advance? cursor count = .ok (cursor.advance? count) := by
  -- The sum is formed only where the test has found enough bytes.
  rw [advance?, remaining_eq fits, ok_bind, Cursor.advance?]
  split
  · rfl
  · rename_i enough
    rw [skip_eq fits (Nat.le_of_not_lt enough)]
    rfl

/-- A step over a rune is made where one is read. -/
theorem next?_eq : next? cursor = .ok cursor.next? := by
  -- After the test for the end, the width is skipped like any number of bytes.
  rw [next?, reading_eq fits, ok_bind, Cursor.next?]
  split
  · rfl
  · exact advance?_eq fits _

/-- What is taken is there. -/
theorem take_eq (count : Nat) : take cursor count = .ok (cursor.take count) := by
  -- No more bytes have been seen than are left.
  have within : (cursor.peek count).length ≤ cursor.remaining := by
    rw [Cursor.peek, List.length_take, Cursor.length_rest]
    exact Nat.min_le_right ..
  rw [take, peek_eq fits, ok_bind, skip_eq fits within]
  rfl

/-- The slice of what was passed is within what was left at the mark, wherever that is. -/
theorem since_eq {mark : Cursor} (marked : mark.Fits) :
    since cursor mark = .ok (cursor.since mark) := by
  -- The difference is at most what was left at the mark.
  have within : mark.remaining - cursor.remaining ≤ mark.rest.length := by
    rw [Cursor.length_rest]
    exact Nat.sub_le ..
  rw [since, remaining_eq marked, remaining_eq fits, rest_eq marked]
  exact slice_from_start within

/-- What stands at the cursor is read there. -/
theorem encounter_eq : encounter cursor = .ok cursor.encounter := by
  -- At the end no rune is read.
  rw [encounter, rune_eq fits, Cursor.encounter]
  split <;> rfl

/-- A pattern is looked for in what is left. -/
theorem sees_eq (pattern : Pattern) : sees cursor pattern = .ok (cursor.sees pattern) := by
  -- A text is compared with bytes of the rest, and a set with the rune that is read.
  cases pattern with
  | exactly text =>
    rw [sees, rest_eq fits]
    rfl
  | anyCase text =>
    rw [sees, peek_eq fits, ok_bind, equalAnyCase_eq]
    rfl
  | oneOf set =>
    rw [sees, rune_eq fits, Cursor.sees]
    cases cursor.atEnd <;> rfl

/-- A query is asked about the rune that is read. -/
theorem seesBy_eq (query : Query) (asked : List Char) :
    seesBy cursor query asked = .ok (cursor.seesBy query asked) := by
  -- At the end no query is asked.
  rw [seesBy, rune_eq fits, Cursor.seesBy]
  split <;> rfl

/-- A pattern is stepped over where there is room for it. -/
theorem stepOver?_eq (pattern : Pattern) :
    stepOver? cursor pattern = .ok (cursor.stepOver? pattern) := by
  -- Texts are skipped by their length, and a rune of a set by its width.
  cases pattern with
  | exactly text => exact advance?_eq fits _
  | anyCase text => exact advance?_eq fits _
  | oneOf set => exact next?_eq fits

/-- A match is stepped over where it is seen. -/
theorem accept?_eq (pattern : Pattern) :
    accept? cursor pattern = .ok (cursor.accept? pattern) := by
  -- The look and the step are both free of faults.
  rw [accept?, sees_eq fits, ok_bind, stepOver?_eq fits, Cursor.accept?]
  split <;> rfl

/-- A rune is stepped over where the answer is yes. -/
theorem acceptBy?_eq (query : Query) (asked : List Char) :
    acceptBy? cursor query asked = .ok (cursor.acceptBy? query asked) := by
  -- The question is asked in either case, and the step is made after a yes.
  rw [acceptBy?, seesBy_eq fits, ok_bind, next?_eq fits, Cursor.acceptBy?]
  cases (cursor.seesBy query asked).result <;> rfl

/-- A jump goes to a place within what is left. -/
theorem jumpTo_eq {found : Option Nat} (within : found.getD cursor.remaining ≤ cursor.remaining) :
    jumpTo cursor found =
      .ok (walked cursor false (cursor.skip (found.getD cursor.remaining))) := by
  -- Skipping no more than is left has no fault.
  rw [jumpTo, remaining_eq fits, ok_bind, walked_skip]
  simp only [skip_eq fits within, ok_bind, pure_eq_ok]

/-- The report of a demand that was not met tells what is read. -/
theorem demand_eq (expected : String) (stepped : Option Cursor) :
    demand cursor expected stepped = .ok (cursor.demand expected stepped) := by
  -- Only a demand that was not met looks at the cursor.
  cases stepped with
  | some next => rfl
  | none =>
    rw [demand, encounter_eq fits]
    rfl

/-- A demand for a match is met where there is one. -/
theorem require_eq (pattern : Pattern) : require cursor pattern = .ok (cursor.require pattern) := by
  -- It demands that the match be accepted.
  rw [require, accept?_eq fits, ok_bind, demand_eq fits]
  rfl

/-- A demand for a rune out of a set gives the rune that is read. -/
theorem requireOneOf_eq (set : String) :
    requireOneOf cursor set = .ok (cursor.requireOneOf set) := by
  -- The rune that is read before the demand is read without a fault.
  rw [requireOneOf, rune_eq fits, require_eq fits]
  rfl

/-- A demand for a rune with the answer yes gives the rune that is read. -/
theorem requireBy_eq (query : Query) (expected : String) :
    requireBy cursor query expected = .ok (cursor.requireBy query expected) := by
  -- What is read, asked and demanded has no fault.
  rw [requireBy, rune_eq fits, acceptBy?_eq fits, ok_bind, ok_bind, demand_eq fits]
  rfl

end Steps

section Loops

variable {cursor : Cursor} (fits : cursor.Fits)
include fits

/-- Matches of a pattern that is no empty text are passed one after another. -/
theorem passAll_eq {pattern : Pattern} (filled : pattern.isEmpty = false) (moved : Bool) :
    passAll cursor pattern moved = .ok (walked cursor moved (cursor.passAll pattern)) := by
  -- The induction follows the matches, of which each one passes something.
  fun_induction Cursor.passAll cursor pattern generalizing moved with
  | case1 cursor stuck =>
    rw [passAll, accept?_eq fits, stuck, ok_bind, walked_self]
    rfl
  | case2 cursor next accepted fewer ih =>
    obtain ⟨count, within, rfl, idle⟩ := Cursor.exists_skip_of_accept? accepted
    -- A pattern that is no empty text matches no fewer bytes than one.
    have positive : 0 < count := by
      rw [filled] at idle
      exact Nat.pos_of_ne_zero (mt idle.mp Bool.false_ne_true)
    obtain ⟨more, _, skips⟩ := Cursor.exists_passAll_eq (cursor.skip count).rest pattern
    rw [passAll, accept?_eq fits, accepted, ok_bind]
    simp only [fewer, if_true]
    rw [ih (fits.skip within) true, skips _ rfl, walked_step positive]
  | case3 cursor next accepted stays =>
    -- A match of such a pattern always leaves fewer bytes.
    exact absurd (Cursor.accept?_remaining_lt filled accepted) stays

/-- Runes with the answer yes are passed one after another. -/
theorem passWhile_eq (query : Query) (asked : List Char) (moved : Bool) :
    passWhile cursor query asked moved =
      .ok ⟨walked cursor moved (cursor.passWhile query asked).result,
        (cursor.passWhile query asked).asked⟩ := by
  -- The induction follows the runes.
  fun_induction Cursor.passWhile cursor query asked generalizing moved with
  | case1 cursor asked runes stuck =>
    rw [passWhile, acceptBy?_eq fits, ok_bind, stuck, walked_self]
    rfl
  | case2 cursor asked runes next accepted later ih =>
    obtain ⟨_, stepped⟩ := Cursor.acceptBy?_eq_some_iff.mp accepted
    obtain ⟨count, within, positive, rfl⟩ := Cursor.exists_skip_of_next? stepped
    obtain ⟨more, _, _, passes⟩ :=
      Cursor.exists_passWhile_eq (cursor.skip count).rest query (runes ++ asked)
    -- The rune that was accepted takes bytes up, so the loop goes on.
    have fewer := Cursor.acceptBy?_remaining_lt accepted
    rw [passWhile, acceptBy?_eq fits, ok_bind, accepted]
    simp only [fewer, if_true]
    rw [ih (fits.skip within) true, passes _ rfl, walked_step positive]
    simp only [later, passes _ rfl]
    rfl

/-- Runes with the answer no are passed one after another. -/
theorem passUntil_eq (query : Query) (asked : List Char) (moved : Bool) :
    passUntil cursor query asked moved =
      .ok ⟨walked cursor moved (cursor.passUntil query asked).result,
        (cursor.passUntil query asked).asked⟩ := by
  -- The induction follows the runes, behind each of which the cursor still fits.
  fun_induction Cursor.passUntil cursor query asked generalizing moved with
  | case1 cursor asked runes stuck =>
    rw [passUntil, seesBy_eq fits, walked_self]
    -- Without a step there was nothing left, or the answer was yes.
    rcases Cursor.declineBy?_eq_none_iff.mp stuck with ended | yes
    · simp only [runes, Cursor.declineBy?, Cursor.seesBy, ended, if_true, pure_eq_ok]
    · simp only [runes, Cursor.declineBy?, Cursor.seesBy, ok_bind, pure_eq_ok]
      cases cursor.atEnd <;> simp [yes]
  | case2 cursor asked runes next declined later ih =>
    obtain ⟨no, stepped⟩ := Cursor.declineBy?_eq_some_iff.mp declined
    have filled := Cursor.atEnd_eq_false_iff.mpr (Cursor.next?_eq_some_iff.mp stepped).1
    -- The rune that was declined is the one that was asked about.
    have heard : runes = [cursor.rune] := by
      simp only [runes, Cursor.declineBy?, Cursor.seesBy, filled, Bool.false_eq_true, if_false]
    obtain ⟨count, within, positive, rfl⟩ := Cursor.exists_skip_of_next? stepped
    obtain ⟨more, _, _, passes⟩ :=
      Cursor.exists_passUntil_eq (cursor.skip count).rest query (runes ++ asked)
    have fewer := Cursor.next?_remaining_lt stepped
    rw [passUntil, seesBy_eq fits, Cursor.seesBy, filled]
    simp only [Bool.false_eq_true, if_false, ok_bind, no, next?_eq fits, stepped, fewer, if_true]
    rw [← heard, ih (fits.skip within) true, passes _ rfl, walked_step positive]
    simp only [later, passes _ rfl]
    rfl

/-- Matches of a pattern are passed, and none of a text with nothing in it. -/
theorem exists_acceptMany_eq (pattern : Pattern) :
    ∃ count, acceptMany cursor pattern = .ok (walked cursor false (cursor.skip count)) ∧
      cursor.acceptMany? pattern = cursor.progress? (cursor.skip count) := by
  -- Both loops end at the same place, and the one for an empty text is not entered.
  obtain ⟨count, _, skips⟩ := Cursor.exists_passAll_eq cursor.rest pattern
  have passes := skips cursor rfl
  refine ⟨count, ?_, by rw [Cursor.acceptMany?, passes]⟩
  rw [acceptMany, ← passes]
  cases empty : pattern.isEmpty with
  | true =>
    rw [Cursor.passAll_of_isEmpty empty, walked_self]
    rfl
  | false => exact passAll_eq fits empty false

/-- Runes with the answer yes are passed, and the same ones are asked about. -/
theorem exists_passWhile_eq (query : Query) :
    ∃ count runes, passWhile cursor query [] false =
        .ok ⟨walked cursor false (cursor.skip count), runes⟩ ∧
      cursor.acceptManyBy? query = ⟨cursor.progress? (cursor.skip count), runes⟩ := by
  -- The loop ends behind a number of bytes, and so does the move.
  obtain ⟨count, runes, _, passes⟩ := Cursor.exists_passWhile_eq cursor.rest query []
  refine ⟨count, runes, ?_, ?_⟩
  · rw [passWhile_eq fits, passes cursor rfl]
  · simp only [Cursor.acceptManyBy?, passes cursor rfl]

/-- Runes with the answer no are passed, and the same ones are asked about. -/
theorem exists_passUntil_eq (query : Query) :
    ∃ count runes, passUntil cursor query [] false =
        .ok ⟨walked cursor false (cursor.skip count), runes⟩ ∧
      cursor.skipUntilBy? query = ⟨cursor.progress? (cursor.skip count), runes⟩ := by
  -- The loop ends behind a number of bytes, and so does the move.
  obtain ⟨count, runes, _, passes⟩ := Cursor.exists_passUntil_eq cursor.rest query []
  refine ⟨count, runes, ?_, ?_⟩
  · rw [passUntil_eq fits, passes cursor rfl]
  · simp only [Cursor.skipUntilBy?, passes cursor rfl]

/-- What comes before the first place that a search finds is passed. -/
theorem exists_jumpTo_eq {holds : Bytes → Prop} {found : Option Nat}
    (first : Bytes.FirstPlace holds cursor.rest (found.getD cursor.rest.length)) :
    ∃ count, jumpTo cursor found = .ok (walked cursor false (cursor.skip count)) ∧
      cursor.jumpTo? found = cursor.progress? (cursor.skip count) := by
  -- A search finds only places within what it searches.
  have within := first.within
  rw [Cursor.length_rest] at within
  exact ⟨_, jumpTo_eq fits within, rfl⟩

/-- What comes before a text is passed. -/
theorem exists_skipToText_eq (text : String) :
    ∃ count, skipToText cursor text = .ok (walked cursor false (cursor.skip count)) ∧
      cursor.skipToText? text = cursor.progress? (cursor.skip count) := by
  -- The search goes through what is left.
  rw [skipToText, rest_eq fits, ok_bind]
  exact exists_jumpTo_eq fits (Bytes.firstPlace_occurrence? _ _)

/-- What comes before a rune of a set is passed, whichever way it is searched for. -/
theorem exists_skipToOneOf_eq (set : String) :
    ∃ count, skipToOneOf cursor set = .ok (walked cursor false (cursor.skip count)) ∧
      cursor.skipToOneOf? set = cursor.progress? (cursor.skip count) := by
  -- The two ways are those of the definition.
  rw [skipToOneOf, Cursor.skipToOneOf?]
  split
  · rw [rest_eq fits, ok_bind]
    exact exists_jumpTo_eq fits (Bytes.firstPlace_anyOf? _ _)
  · obtain ⟨count, runes, passes, skips⟩ :=
      exists_passUntil_eq fits (.ofPred fun rune => set.toList.contains rune)
    exact ⟨count, by rw [passes]; rfl, by rw [skips]⟩

end Loops

end Checked

end RuneScan
