import RuneScan.Unicode.LowerTable
import RuneScan.Unicode.UpperTable

/-! Runes that are one letter in different cases. -/

namespace RuneScan.Unicode

/-- The full lower-case form of a rune, whatever text it stands in. -/
def lower (rune : Char) : List Char :=
  -- The ASCII letters lie a fixed distance apart.
  if rune.toNat < 0x80 then [rune.toLower] else lowerTable.form rune

/-- The full upper-case form of a rune, whatever text it stands in. -/
def upper (rune : Char) : List Char :=
  -- The ASCII letters lie a fixed distance apart.
  if rune.toNat < 0x80 then [rune.toUpper] else upperTable.form rune

/-- The two letters i whose other case depends on the language of the text. -/
def isLocaleBound (rune : Char) : Bool :=
  -- These are the capital I with a dot and the small i without one.
  rune == '\u0130' || rune == '\u0131'

/-- Whether two runes are one letter, up to case and whatever the language. -/
def sameLetter (left right : Char) : Bool :=
  -- Some mappings go one way only, so agreement in either case is enough.
  left == right ||
    !isLocaleBound left && !isLocaleBound right &&
      (lower left == lower right || upper left == upper right)

end RuneScan.Unicode
