import RuneScan.Cursor.Mark
import RuneScan.Script.Answer

/-! Steps that only look at what the cursor stands at. -/

namespace RuneScan.Script

/-- A step that leaves the cursor where it is. -/
inductive Look where
  /-- The bytes not yet passed. -/
  | rest
  /-- The number of bytes not yet passed. -/
  | remaining
  /-- The number of bytes passed. -/
  | offset
  /-- The next byte, or zero at the end. -/
  | byte
  /-- The rune at the cursor. -/
  | rune
  /-- The next few bytes. -/
  | peek (count : Nat)
  /-- Whether nothing follows. -/
  | atEnd
  /-- Whether something follows. -/
  | hasMore
  /-- Whether a line ends here. -/
  | atLineEnd
  /-- What follows, as text. -/
  | display
  /-- The offset and what follows, as text. -/
  | describe
  /-- What stands here, in the words of a message. -/
  | encounter
  /-- Whether a pattern matches. -/
  | sees (pattern : Pattern)
  /-- Whether there is a rune with the answer yes. -/
  | seesBy (query : Query)

/-- What a look finds at a cursor. -/
def Look.run (cursor : Cursor) : Look → Response
  -- Only a query is asked anything, and all else is answered from the cursor alone.
  | .rest => .ofAnswer (.bytes cursor.rest)
  | .remaining => .ofAnswer (.count cursor.remaining)
  | .offset => .ofAnswer (.count cursor.offset)
  | .byte => .ofAnswer (.count cursor.byte.toNat)
  | .rune => .ofAnswer (.rune cursor.rune)
  | .peek count => .ofAnswer (.bytes (cursor.peek count))
  | .atEnd => .ofAnswer (.flag cursor.atEnd)
  | .hasMore => .ofAnswer (.flag !cursor.atEnd)
  | .atLineEnd => .ofAnswer (.flag cursor.atLineEnd)
  | .display => .ofAnswer (.text (toString cursor))
  | .describe => .ofAnswer (.text cursor.describe)
  | .encounter => .ofAnswer (.text cursor.encounter.describe)
  | .sees pattern => .ofAnswer (.flag (cursor.sees pattern))
  | .seesBy query =>
    let look := cursor.seesBy query []
    .ofInquiry ⟨.flag look.result, look.asked⟩

end RuneScan.Script
