import RuneScan.Cursor.Basic
import RuneScan.Text.AnyCase

/-! Patterns are matched where the cursor stands, and accepted by stepping over the match. -/

namespace RuneScan

/-- What may be looked for at a cursor. -/
inductive Pattern where
  /-- The bytes of a text, one for one. -/
  | exactly (text : String)
  /-- As many bytes as a text has, that hold the same text up to letter case. -/
  | anyCase (text : String)
  /-- One rune, which must be among those of a text. -/
  | oneOf (set : String)
  deriving DecidableEq

/-- The words for a pattern in a message. -/
def Pattern.describe : Pattern → String
  -- Texts and sets are shown as they stand, with nothing escaped.
  | .exactly text => "`" ++ text ++ "`"
  | .anyCase text => "`" ++ text ++ "` (any case)"
  | .oneOf set => "one of `" ++ set ++ "`"

namespace Cursor

/-- Whether a pattern matches where the cursor stands. -/
def sees (cursor : Cursor) : Pattern → Bool
  -- A set has nothing to match at the end, not even the replacement.
  | .exactly text => (Utf8.encode text).isPrefixOf cursor.rest
  | .anyCase text =>
    Text.equalAnyCase (cursor.peek (Utf8.encode text).length) (Utf8.encode text)
  | .oneOf set => !cursor.atEnd && set.toList.contains cursor.rune

/-- The cursor after what a pattern stands for, whether or not it matches. -/
def stepOver? (cursor : Cursor) : Pattern → Option Cursor
  -- A text counts by its own bytes, a set by the rune that is there.
  | .exactly text => cursor.advance? (Utf8.encode text).length
  | .anyCase text => cursor.advance? (Utf8.encode text).length
  | .oneOf _ => cursor.next?

/-- The cursor after the match of a pattern, unless there is none. -/
def accept? (cursor : Cursor) (pattern : Pattern) : Option Cursor :=
  -- A match of a text in another case may be too short to be stepped over.
  if cursor.sees pattern then cursor.stepOver? pattern else none

/-- The cursor after matches of a pattern, one after another, as long as they lead on. -/
def passAll (cursor : Cursor) (pattern : Pattern) : Cursor :=
  match cursor.accept? pattern with
  | none => cursor
  | some next =>
    -- A match of nothing would go on for ever.
    if next.remaining < cursor.remaining then next.passAll pattern else cursor
termination_by cursor.remaining

/-- The cursor after one or more matches of a pattern, unless that leads nowhere. -/
def acceptMany? (cursor : Cursor) (pattern : Pattern) : Option Cursor :=
  cursor.progress? (cursor.passAll pattern)

end Cursor

end RuneScan
