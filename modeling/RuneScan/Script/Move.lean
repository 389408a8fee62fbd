import RuneScan.Cursor.Skip
import RuneScan.Script.Answer

/-! Steps that consume bytes, each of them all or nothing. -/

namespace RuneScan.Script

/-- A step that may lead the cursor on. -/
inductive Move where
  /-- Passes a number of bytes. -/
  | advance (count : Nat)
  /-- Passes as many bytes as a rune takes up. -/
  | advanceOver (rune : Char)
  /-- Passes the rune at the cursor. -/
  | next
  /-- Passes and gives the next few bytes. -/
  | take (count : Nat)
  /-- Passes a match of a pattern. -/
  | accept (pattern : Pattern)
  /-- Passes matches of a pattern, one after another. -/
  | acceptMany (pattern : Pattern)
  /-- Passes a rune of white space. -/
  | acceptBlank
  /-- Passes all the white space. -/
  | acceptBlanks
  /-- Passes a rune with the answer yes. -/
  | acceptBy (query : Query)
  /-- Passes runes with the answer yes. -/
  | acceptManyBy (query : Query)
  /-- Passes all that comes before a text. -/
  | skipToText (text : String)
  /-- Passes all that comes before a rune out of a set. -/
  | skipToOneOf (set : String)
  /-- Passes all that comes before a rune with the answer yes. -/
  | skipUntilBy (query : Query)
  /-- Demands and passes a match of a pattern. -/
  | require (pattern : Pattern)
  /-- Demands, passes and gives a rune out of a set. -/
  | requireOneOf (set : String)
  /-- Demands, passes and gives a rune with the answer yes, which goes by the given words. -/
  | requireBy (query : Query) (expected : String)

/-- What a move answers, and where it leads. -/
structure Arrival where
  /-- What the move answers. -/
  response : Response
  /-- The cursor after the move. -/
  cursor : Cursor

namespace Arrival

/-- The arrival of a move that either leads on or stays. -/
def ofStep (start : Cursor) (reached : Option Cursor) : Arrival :=
  -- The answer tells whether there was a place to go to.
  ⟨.ofAnswer (.flag reached.isSome), reached.getD start⟩

/-- The arrival of a move that asks a query and then either leads on or stays. -/
def ofInquiry (start : Cursor) (step : Inquiry (Option Cursor)) : Arrival :=
  -- The runes asked about are reported in both cases.
  ⟨.ofInquiry ⟨.flag step.result.isSome, step.asked⟩, step.result.getD start⟩

/-- The arrival of a demand, with the rune that met it if it was for a rune. -/
def ofDemand (start : Cursor) : Except Mismatch (Option Char × Cursor) → Arrival
  -- An unmet demand consumes nothing.
  | .ok (rune, reached) => ⟨.ofAnswer (.demand (.ok rune)), reached⟩
  | .error mismatch => ⟨.ofAnswer (.demand (.error mismatch)), start⟩

end Arrival

/-- Makes a move from a cursor. -/
def Move.run (start : Cursor) : Move → Arrival
  -- A move that fails stays where it is.
  | .advance count => .ofStep start (start.advance? count)
  | .advanceOver rune => .ofStep start (start.advanceOver? rune)
  | .next => .ofStep start start.next?
  | .take count => ⟨.ofAnswer (.bytes (start.take count).1), (start.take count).2⟩
  | .accept pattern => .ofStep start (start.accept? pattern)
  | .acceptMany pattern => .ofStep start (start.acceptMany? pattern)
  | .acceptBlank => .ofStep start start.acceptBlank?
  | .acceptBlanks => .ofStep start start.acceptBlanks?
  | .acceptBy query => .ofInquiry start (start.acceptBy? query [])
  | .acceptManyBy query => .ofInquiry start (start.acceptManyBy? query)
  | .skipToText text => .ofStep start (start.skipToText? text)
  | .skipToOneOf set => .ofStep start (start.skipToOneOf? set)
  | .skipUntilBy query => .ofInquiry start (start.skipUntilBy? query)
  | .require pattern => .ofDemand start ((start.require pattern).map (none, ·))
  | .requireOneOf set => .ofDemand start ((start.requireOneOf set).map (Prod.map some id))
  | .requireBy query expected =>
    let step := start.requireBy query expected
    let arrival := Arrival.ofDemand start (step.result.map (Prod.map some id))
    { arrival with response := .ofInquiry ⟨arrival.response.answer, step.asked⟩ }

end RuneScan.Script
