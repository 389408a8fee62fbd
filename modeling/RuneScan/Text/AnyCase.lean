import RuneScan.Unicode.Letter
import RuneScan.Utf8.Reading

/-! Texts that are equal when letter case is ignored. -/

namespace RuneScan.Text

/-- The small letter of an ASCII capital letter, and any other byte itself. -/
def lowerByte (byte : UInt8) : UInt8 :=
  -- Capital and small letters lie thirty-two apart.
  if 0x41 ≤ byte ∧ byte ≤ 0x5A then byte + 0x20 else byte

/-- Whether the readings of two views pair up as the same letters. -/
def sameLetters : Bytes → Bytes → Bool
  | [], [] => true
  | [], _ :: _ => false
  | _ :: _, [] => false
  | first :: rest, other :: others =>
    -- Paired readings may differ in width, so each view is stepped over by its own.
    let left := Utf8.read (first :: rest)
    let right := Utf8.read (other :: others)
    Unicode.sameLetter left.rune right.rune &&
      sameLetters ((first :: rest).drop left.width) ((other :: others).drop right.width)
termination_by view => view.length
decreasing_by exact Utf8.length_drop_read_lt first rest

/-- Whether two views hold the same text, up to letter case. -/
def equalAnyCase (left right : Bytes) : Bool :=
  -- ASCII texts need no decoding, because each of their bytes is a rune.
  if Bytes.isAscii left && Bytes.isAscii right then left.map lowerByte == right.map lowerByte
  else sameLetters left right

end RuneScan.Text
