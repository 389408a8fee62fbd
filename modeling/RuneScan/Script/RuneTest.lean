import RuneScan.Cursor.Query

/-! Queries that scripts refer to by name. -/

namespace RuneScan.Script

/-- A query that a script can name. -/
inductive RuneTest where
  /-- Every rune. -/
  | anything
  /-- No rune. -/
  | nothing
  /-- The ASCII digits. -/
  | digit
  /-- The ASCII letters. -/
  | letter
  /-- The ASCII letters and digits. -/
  | alphanumeric
  /-- What may stand in an identifier. -/
  | identifier
  /-- The runes of a text. -/
  | among (text : String)
  /-- The runes that a text does not hold. -/
  | outside (text : String)
  /-- The runes from the first to the last one, both included. -/
  | between (first last : Char)
  /-- Any rune, but only so many times. -/
  | times (count : Nat)

/-- What a named query answers. -/
def RuneTest.query : RuneTest → Query
  -- All but the last look at nothing but the rune.
  | .anything => .ofPred fun _ => true
  | .nothing => .ofPred fun _ => false
  | .digit => .ofPred Char.isDigit
  | .letter => .ofPred Char.isAlpha
  | .alphanumeric => .ofPred Char.isAlphanum
  | .identifier => .ofPred fun rune => rune.isAlphanum || rune == '_' || rune.toNat ≥ 0x80
  | .among text => .ofPred fun rune => text.toList.contains rune
  | .outside text => .ofPred fun rune => !text.toList.contains rune
  | .between first last => .ofPred fun rune => first ≤ rune && rune ≤ last
  | .times count => fun asked _ => asked.length < count

end RuneScan.Script
