import RuneScan.Cursor.Query

/-! Skipping ahead to something that is looked for, or to the end where it does not occur. -/

namespace RuneScan.Cursor

/-- The cursor at a place found in the rest, or at the end, unless it stands there. -/
def jumpTo? (cursor : Cursor) (found : Option Nat) : Option Cursor :=
  -- Places are counted from the cursor on.
  cursor.progress? (cursor.skip (found.getD cursor.remaining))

/-- The cursor at the next occurrence of a text, or at the end. -/
def skipToText? (cursor : Cursor) (text : String) : Option Cursor :=
  -- A text begins where a rune begins, so its bytes need no decoding to be found.
  cursor.jumpTo? (Bytes.occurrence? (Utf8.encode text) cursor.rest)

/-- The cursor at the next rune that is among those of a text, or at the end. -/
def skipToOneOf? (cursor : Cursor) (set : String) : Option Cursor :=
  let wanted := Utf8.encode set
  -- A few ASCII runes are searched for as bytes, and other sets rune by rune.
  if Bytes.isAscii wanted && 1 ≤ wanted.length && wanted.length ≤ 3 then
    cursor.jumpTo? (Bytes.anyOf? wanted cursor.rest)
  else (cursor.skipUntilBy? (Query.ofPred fun rune => set.toList.contains rune)).result

end RuneScan.Cursor
