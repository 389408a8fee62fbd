/-! Classes of runes, given as ranges of scalar values. -/

namespace RuneScan.Unicode

/-- The first and the last of a run of consecutive scalar values. -/
abbrev RuneRange := Nat × Nat

/-- Whether a rune lies in one of the ranges. -/
def isWithin (ranges : List RuneRange) (rune : Char) : Bool :=
  -- Both ends belong to their range.
  ranges.any fun range => range.1 ≤ rune.toNat && rune.toNat ≤ range.2

end RuneScan.Unicode
