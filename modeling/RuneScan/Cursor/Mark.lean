import RuneScan.Cursor.Basic
import RuneScan.Text.Quoted
import RuneScan.Utf8.Lossy

/-! What lies between two places, and how a place is shown as text. -/

namespace RuneScan.Cursor

/-- The bytes passed since an earlier place. -/
def since (cursor mark : Cursor) : Bytes :=
  -- Only the numbers of remaining bytes count, so a place ahead of the cursor gives nothing.
  mark.rest.take (mark.remaining - cursor.remaining)

/-- The text passed since an earlier place, as shown to people. -/
def textSince (cursor mark : Cursor) : String := Utf8.lossy (cursor.since mark)

/-- The text captured by a step from a mark, or what was held before where the step failed. -/
def capture (mark : Cursor) (held : String) (succeeded : Bool) (reached : Cursor) : String :=
  -- A failed step may have moved the cursor all the same.
  if succeeded then reached.textSince mark else held

/-- The remaining bytes as text. -/
instance : ToString Cursor := ⟨fun cursor => Utf8.lossy cursor.rest⟩

/-- A line that shows the offset of the cursor and what follows it. -/
def describe (cursor : Cursor) : String :=
  -- The dots stand for the buffer, which is not shown.
  let shown := String.ofList (Text.quoted Text.doubleQuote (toString cursor).toList)
  "Cursor \x7b pos: " ++ cursor.offset.repr ++ ", rest: " ++ shown ++ ", .. \x7d"

end RuneScan.Cursor
