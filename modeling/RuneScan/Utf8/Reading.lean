import RuneScan.Utf8.Scalar

/-! Reading is total: every stretch of bytes has a first rune and a width to step over. -/

namespace RuneScan.Utf8

/-- The rune that stands in for bytes that encode none. -/
def replacement : Char := '\uFFFD'

/-- A rune read at the front of a stretch of bytes. -/
structure Reading where
  /-- The rune itself, or the replacement. -/
  rune : Char
  /-- How many bytes the reading takes up, which only an empty stretch leaves at zero. -/
  width : Nat
  deriving DecidableEq

/-- Reads the first rune, taking a byte that begins no rune as one replacement by itself. -/
def read (view : Bytes) : Reading :=
  -- Stepping over a single malformed byte lets the next reading begin on the very next byte.
  match scalar? view with
  | some rune => ⟨rune, rune.utf8Size⟩
  | none => ⟨replacement, min 1 view.length⟩

/-- Every reading of a view that holds something takes up at least one byte. -/
theorem read_width_pos (first : UInt8) (rest : Bytes) : 0 < (read (first :: rest)).width := by
  -- No rune has an empty encoding, and a malformed byte counts as one.
  unfold read
  split
  · exact Char.utf8Size_pos _
  · simp only [List.length_cons]
    omega

/-- What is left after the first reading is shorter than the view. -/
theorem length_drop_read_lt (first : UInt8) (rest : Bytes) :
    ((first :: rest).drop (read (first :: rest)).width).length < (first :: rest).length := by
  -- The reading takes up at least one of the bytes.
  have taken := read_width_pos first rest
  simp only [List.length_drop, List.length_cons]
  omega

/-- The runes of a view, one reading after another. -/
def runes : Bytes → List Char
  | [] => []
  | first :: rest =>
    -- Each reading begins where the one before it ended.
    (read (first :: rest)).rune :: runes ((first :: rest).drop (read (first :: rest)).width)
termination_by view => view.length
decreasing_by exact length_drop_read_lt first rest

end RuneScan.Utf8
