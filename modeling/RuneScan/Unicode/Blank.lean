import RuneScan.Unicode.Ranges

/-! White space, in the sense of the Unicode property of that name. -/

namespace RuneScan.Unicode

/-- The runes that separate words or lines without showing anything, in ascending order. -/
def blankRanges : List RuneRange :=
  -- The zero-width space is a format rune and not among them.
  [(0x9, 0xD), (0x20, 0x20), (0x85, 0x85), (0xA0, 0xA0), (0x1680, 0x1680), (0x2000, 0x200A),
    (0x2028, 0x2029), (0x202F, 0x202F), (0x205F, 0x205F), (0x3000, 0x3000)]

/-- Whether a rune is white space. -/
def isBlank (rune : Char) : Bool := isWithin blankRanges rune

end RuneScan.Unicode
