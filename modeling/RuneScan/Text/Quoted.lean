import RuneScan.Unicode.Unprinted

/-! Quoted text, in which every rune can be told from every other one. -/

namespace RuneScan.Text

/-- The mark that stands before and after a single rune. -/
def singleQuote : Char := '\x27'

/-- The mark that stands before and after a text. -/
def doubleQuote : Char := '\x22'

/-- A rune as its scalar value in lower-case hexadecimal digits, between braces. -/
def numbered (rune : Char) : List Char :=
  -- There are no leading zeros, so the braces are what ends the number.
  ['\\', 'u', '{'] ++ Nat.toDigits 16 rune.toNat ++ ['}']

/-- How a rune is written between quotes of the given kind. -/
def escape (quote rune : Char) : List Char :=
  -- The other kind of quote needs no escape.
  if rune = '\x00' then ['\\', '0']
  else if rune = '\t' then ['\\', 't']
  else if rune = '\r' then ['\\', 'r']
  else if rune = '\n' then ['\\', 'n']
  else if rune = '\\' ∨ rune = quote then ['\\', rune]
  else if Unicode.isUnprinted rune then numbered rune
  else [rune]

/-- A text between quotes of the given kind. -/
def quoted (quote : Char) (runes : List Char) : List Char :=
  -- Each rune is escaped by itself, wherever it stands.
  quote :: runes.flatMap (escape quote) ++ [quote]

end RuneScan.Text
