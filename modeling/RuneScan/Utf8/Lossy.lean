import RuneScan.Utf8.Reading

/-! Text for people: every ill-formed part of a stretch of bytes shows as one replacement. -/

namespace RuneScan.Utf8

/-- The least and the greatest value that a byte may have at its place in a form. -/
abbrev ByteRange := UInt8 × UInt8

/-- The range of a continuation byte that no lead byte narrows. -/
def anyTail : ByteRange := (0x80, 0xBF)

/-- The ranges of the bytes that may follow a lead byte in a well-formed rune, in order. -/
def tailRanges (lead : UInt8) : List ByteRange :=
  -- The narrow second ranges keep out overlong forms, surrogates and too large values.
  if lead < 0xC2 then []
  else if lead < 0xE0 then [anyTail]
  else if lead = 0xE0 then [(0xA0, 0xBF), anyTail]
  else if lead = 0xED then [(0x80, 0x9F), anyTail]
  else if lead < 0xF0 then [anyTail, anyTail]
  else if lead = 0xF0 then [(0x90, 0xBF), anyTail, anyTail]
  else if lead < 0xF4 then [anyTail, anyTail, anyTail]
  else if lead = 0xF4 then [(0x80, 0x8F), anyTail, anyTail]
  else []

/-- How many of the bytes fall into the given ranges, up to the first one that does not. -/
def conforming : List ByteRange → Bytes → Nat
  | (least, greatest) :: ranges, byte :: rest =>
    -- A byte outside its range may begin a rune of its own.
    if least ≤ byte ∧ byte ≤ greatest then conforming ranges rest + 1 else 0
  | _, _ => 0

/-- The runes shown for a view, with one replacement for each maximal ill-formed part. -/
def lossyRunes : Bytes → List Char
  | [] => []
  | first :: rest =>
    match scalar? (first :: rest) with
    | some rune => rune :: lossyRunes (rest.drop (rune.utf8Size - 1))
    | none =>
      -- The part extends as far as some well-formed rune could have gone on.
      replacement :: lossyRunes (rest.drop (conforming (tailRanges first) rest))
termination_by view => view.length
decreasing_by all_goals simp only [List.length_drop, List.length_cons]; omega

/-- The text shown for a view. -/
def lossy (view : Bytes) : String := String.ofList (lossyRunes view)

end RuneScan.Utf8
