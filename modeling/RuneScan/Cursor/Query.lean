import RuneScan.Cursor.Basic
import RuneScan.Unicode.Blank

/-! Queries are asked about runes, one at a time, and may remember what they were asked. -/

namespace RuneScan

/-- A question about a rune, given the runes that it was asked about before, latest first. -/
abbrev Query := List Char → Char → Bool

/-- A question that is answered from the rune alone. -/
def Query.ofPred (holds : Char → Bool) : Query := fun _ rune => holds rune

/-- What came of asking a query, and the runes that it was asked about. -/
structure Inquiry (α : Type) where
  /-- What came of it. -/
  result : α
  /-- One rune for each time that the query was asked, in that order. -/
  asked : List Char

namespace Cursor

/-- Asks about the rune at the cursor, after the given runes. -/
def seesBy (cursor : Cursor) (query : Query) (asked : List Char) : Inquiry Bool :=
  -- The end holds no rune to ask about, so the answer there is no.
  if cursor.atEnd then ⟨false, []⟩ else ⟨query asked cursor.rune, [cursor.rune]⟩

/-- The cursor after the rune that it stands at, if the answer for that rune is yes. -/
def acceptBy? (cursor : Cursor) (query : Query) (asked : List Char) : Inquiry (Option Cursor) :=
  -- The rune counts as asked about whatever the answer is.
  let look := cursor.seesBy query asked
  ⟨if look.result then cursor.next? else none, look.asked⟩

/-- Accepting a rune leaves fewer bytes. -/
theorem acceptBy?_remaining_lt {cursor next : Cursor} {query : Query} {asked : List Char}
    (accepted : (cursor.acceptBy? query asked).result = some next) :
    next.remaining < cursor.remaining := by
  -- A yes steps over the rune, and a no accepts nothing.
  simp only [acceptBy?] at accepted
  split at accepted
  · exact next?_remaining_lt accepted
  · contradiction

/-- The cursor after runes with the answer yes, at the first one with the answer no. -/
def passWhile (cursor : Cursor) (query : Query) (asked : List Char) : Inquiry Cursor :=
  let runes := (cursor.acceptBy? query asked).asked
  match _ : (cursor.acceptBy? query asked).result with
  | none => ⟨cursor, runes⟩
  | some next =>
    -- The next question comes after the one just answered.
    let later := next.passWhile query (runes ++ asked)
    ⟨later.result, runes ++ later.asked⟩
termination_by cursor.remaining
decreasing_by exact acceptBy?_remaining_lt ‹_›

/-- The cursor after the rune that it stands at, if the answer for that rune is no. -/
def declineBy? (cursor : Cursor) (query : Query) (asked : List Char) : Inquiry (Option Cursor) :=
  -- The end has no rune to be passed, and none with a yes either.
  let look := cursor.seesBy query asked
  ⟨if cursor.atEnd || look.result then none else cursor.next?, look.asked⟩

/-- Declining a rune leaves fewer bytes. -/
theorem declineBy?_remaining_lt {cursor next : Cursor} {query : Query} {asked : List Char}
    (declined : (cursor.declineBy? query asked).result = some next) :
    next.remaining < cursor.remaining := by
  -- A no steps over the rune, and a yes stays before it.
  simp only [declineBy?] at declined
  split at declined
  · contradiction
  · exact next?_remaining_lt declined

/-- The cursor after runes with the answer no, at the first one with the answer yes. -/
def passUntil (cursor : Cursor) (query : Query) (asked : List Char) : Inquiry Cursor :=
  let runes := (cursor.declineBy? query asked).asked
  match _ : (cursor.declineBy? query asked).result with
  | none => ⟨cursor, runes⟩
  | some next =>
    -- The rune was asked about, and it is passed because it was not the one looked for.
    let later := next.passUntil query (runes ++ asked)
    ⟨later.result, runes ++ later.asked⟩
termination_by cursor.remaining
decreasing_by exact declineBy?_remaining_lt ‹_›

/-- The cursor after one or more runes with the answer yes, unless the first one has a no. -/
def acceptManyBy? (cursor : Cursor) (query : Query) : Inquiry (Option Cursor) :=
  -- Every question is asked, also where the outcome is that nothing is accepted.
  let walk := cursor.passWhile query []
  ⟨cursor.progress? walk.result, walk.asked⟩

/-- The cursor at the first rune with the answer yes, or at the end, unless it stands there. -/
def skipUntilBy? (cursor : Cursor) (query : Query) : Inquiry (Option Cursor) :=
  -- Standing at such a rune already is no skip.
  let walk := cursor.passUntil query []
  ⟨cursor.progress? walk.result, walk.asked⟩

/-- The cursor after one rune of white space. -/
def acceptBlank? (cursor : Cursor) : Option Cursor :=
  (cursor.acceptBy? (Query.ofPred Unicode.isBlank) []).result

/-- The cursor after all the white space that it stands at, unless there is none. -/
def acceptBlanks? (cursor : Cursor) : Option Cursor :=
  (cursor.acceptManyBy? (Query.ofPred Unicode.isBlank)).result

end Cursor

end RuneScan
