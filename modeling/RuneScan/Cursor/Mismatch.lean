import RuneScan.Cursor.Pattern
import RuneScan.Cursor.Query
import RuneScan.Text.Quoted

/-! Demands on what follows, and the report of a demand that was not met. -/

namespace RuneScan

/-- What stands at a place. -/
inductive Encounter where
  /-- A rune, which is the replacement where the bytes encode none. -/
  | rune (standing : Char)
  /-- Nothing, because the buffer ends there. -/
  | endOfInput
  deriving DecidableEq

/-- The words for what stands at a place. -/
def Encounter.describe : Encounter → String
  -- Quotes keep a rune apart from the words around it.
  | .rune standing => String.ofList (Text.quoted Text.singleQuote [standing])
  | .endOfInput => "end of input"

/-- A demand that was not met. -/
structure Mismatch where
  /-- The words for what was demanded. -/
  expected : String
  /-- What stood there instead. -/
  found : Encounter
  /-- How many bytes of the buffer came before it. -/
  offset : Nat
  deriving DecidableEq

/-- The report of a demand that was not met. -/
def Mismatch.message (mismatch : Mismatch) : String :=
  -- The demand comes first, then the finding, and the place ends the line.
  "expected " ++ mismatch.expected ++ ", found " ++ mismatch.found.describe ++
    " at byte " ++ mismatch.offset.repr

namespace Cursor

/-- What stands at the cursor. -/
def encounter (cursor : Cursor) : Encounter :=
  -- Malformed bytes are still something that stands there.
  if cursor.atEnd then .endOfInput else .rune cursor.rune

/-- The cursor that a step led to, or the report that its demand was not met here. -/
def demand (cursor : Cursor) (expected : String) (stepped : Option Cursor) :
    Except Mismatch Cursor :=
  -- The report is about the place before the step.
  match stepped with
  | some next => .ok next
  | none => .error ⟨expected, cursor.encounter, cursor.offset⟩

/-- The cursor after the match of a pattern, which has to be there. -/
def require (cursor : Cursor) (pattern : Pattern) : Except Mismatch Cursor :=
  cursor.demand pattern.describe (cursor.accept? pattern)

/-- The rune at the cursor, which has to be among those of a text, and the cursor after it. -/
def requireOneOf (cursor : Cursor) (set : String) : Except Mismatch (Char × Cursor) :=
  -- The rune is the one before the step.
  (cursor.require (.oneOf set)).map fun next => (cursor.rune, next)

/-- The rune at the cursor, which has to have the answer yes, and the cursor after it. -/
def requireBy (cursor : Cursor) (query : Query) (expected : String) :
    Inquiry (Except Mismatch (Char × Cursor)) :=
  -- A query has no words of its own, so they are given with it.
  let step := cursor.acceptBy? query []
  ⟨(cursor.demand expected step.result).map fun next => (cursor.rune, next), step.asked⟩

end Cursor

end RuneScan
