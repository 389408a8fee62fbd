import RuneScan.Utf8.Encode
import RuneScan.Utf8.Reading

/-! A cursor is a place in a buffer, and all that it looks at lies between there and the end. -/

namespace RuneScan

/-- A place in a buffer of bytes. -/
structure Cursor where
  /-- The whole buffer, with what the cursor has already passed. -/
  buffer : Bytes
  /-- How many bytes of the buffer the cursor has passed. -/
  offset : Nat
  deriving DecidableEq

namespace Cursor

/-- A cursor at the beginning of a buffer. -/
def ofBytes (buffer : Bytes) : Cursor := ⟨buffer, 0⟩

/-- A cursor at the beginning of a text. -/
def ofText (text : String) : Cursor := ofBytes (Utf8.encode text)

/-- The bytes that the cursor has not passed. -/
def rest (cursor : Cursor) : Bytes := cursor.buffer.drop cursor.offset

/-- How many bytes the cursor has not passed. -/
def remaining (cursor : Cursor) : Nat := cursor.buffer.length - cursor.offset

/-- Whether the cursor has passed the whole buffer. -/
def atEnd (cursor : Cursor) : Bool := cursor.buffer.length ≤ cursor.offset

/-- Whether a line ends at the cursor, be it by a break or because nothing follows. -/
def atLineEnd (cursor : Cursor) : Bool :=
  -- Both runes that break a line are ASCII, so the next byte tells.
  match cursor.rest with
  | [] => true
  | byte :: _ => byte == 0x0A || byte == 0x0D

/-- The next bytes, at most the given number of them. -/
def peek (cursor : Cursor) (count : Nat) : Bytes := cursor.rest.take count

/-- The next byte, or zero at the end. -/
def byte (cursor : Cursor) : UInt8 := cursor.rest.headD 0

/-- What is read at the cursor. -/
def reading (cursor : Cursor) : Utf8.Reading := Utf8.read cursor.rest

/-- The rune at the cursor, or the replacement where there is none. -/
def rune (cursor : Cursor) : Char := cursor.reading.rune

/-- The cursor after a number of bytes that must not exceed the remaining ones. -/
def skip (cursor : Cursor) (count : Nat) : Cursor :=
  -- Callers have counted the bytes beforehand.
  { cursor with offset := cursor.offset + count }

/-- The cursor after a number of bytes, unless fewer remain. -/
def advance? (cursor : Cursor) (count : Nat) : Option Cursor :=
  -- All of the bytes are passed, or none of them.
  if cursor.remaining < count then none else some (cursor.skip count)

/-- The cursor after as many bytes as a rune takes up, whatever those bytes are. -/
def advanceOver? (cursor : Cursor) (rune : Char) : Option Cursor :=
  -- The width is that of the given rune, which the caller expects here.
  cursor.advance? rune.utf8Size

/-- The cursor after the rune that it stands at, unless it is at the end. -/
def next? (cursor : Cursor) : Option Cursor :=
  -- A byte that begins no rune is passed by itself.
  if cursor.reading.width = 0 then none else cursor.advance? cursor.reading.width

/-- The next bytes, at most the given number of them, and the cursor after them. -/
def take (cursor : Cursor) (count : Nat) : Bytes × Cursor :=
  -- Only what was there to be taken is passed.
  (cursor.peek count, cursor.skip (cursor.peek count).length)

/-- A later cursor, if it has indeed passed more than an earlier one. -/
def progress? (earlier later : Cursor) : Option Cursor :=
  -- Standing still is no success for those who look for progress.
  if earlier.offset < later.offset then some later else none

/-- The remaining bytes are counted by their number. -/
@[simp] theorem length_rest (cursor : Cursor) : cursor.rest.length = cursor.remaining := by
  -- Dropping the passed bytes leaves the others.
  simp [rest, remaining]

/-- Nothing remains exactly at the end. -/
theorem atEnd_iff (cursor : Cursor) : cursor.atEnd ↔ cursor.remaining = 0 := by
  -- Both compare the offset with the length of the buffer.
  simp [atEnd, remaining, Nat.sub_eq_zero_iff_le]

/-- Advancing succeeds by passing the bytes, and only where they remain. -/
theorem advance?_eq_some {cursor next : Cursor} {count : Nat} :
    cursor.advance? count = some next ↔ count ≤ cursor.remaining ∧ cursor.skip count = next := by
  -- The test is the negation of there being enough bytes.
  unfold advance?
  split
  · simp only [reduceCtorEq, false_iff, not_and]
    omega
  · simp only [Option.some.injEq, iff_and_self]
    omega

/-- Stepping over a rune leaves fewer bytes. -/
theorem next?_remaining_lt {cursor next : Cursor} (stepped : cursor.next? = some next) :
    next.remaining < cursor.remaining := by
  -- The width of the reading is positive and within the rest.
  unfold next? at stepped
  split at stepped
  · contradiction
  · obtain ⟨within, rfl⟩ := advance?_eq_some.mp stepped
    simp only [remaining, skip] at within ⊢
    omega

end Cursor

end RuneScan
