import RuneScan.Cursor.Basic
import RuneScan.Proofs.Utf8.Reading

/-! What single steps do to the rest of a buffer. -/

namespace RuneScan.Cursor

/-- At the beginning of a buffer, all of it is left. -/
@[simp] theorem rest_ofBytes (buffer : Bytes) : (ofBytes buffer).rest = buffer := by
  -- No byte has been passed.
  rw [ofBytes, rest, List.drop_zero]

/-- At the beginning of a text, all of its bytes are left. -/
@[simp] theorem rest_ofText (text : String) : (ofText text).rest = Utf8.encode text :=
  rest_ofBytes _

/-- Skipping bytes leaves out as many of the rest. -/
@[simp] theorem rest_skip (cursor : Cursor) (count : Nat) :
    (cursor.skip count).rest = cursor.rest.drop count := by
  -- The bytes that were passed before stay passed.
  rw [rest, rest, skip, List.drop_drop]

/-- Skipping bytes leaves fewer of them. -/
theorem remaining_skip (cursor : Cursor) (count : Nat) :
    (cursor.skip count).remaining = cursor.remaining - count := by
  rw [← length_rest, rest_skip, List.length_drop, length_rest]

/-- Skipping bytes puts the offset forward by as many. -/
@[simp] theorem offset_skip (cursor : Cursor) (count : Nat) :
    (cursor.skip count).offset = cursor.offset + count := rfl

/-- Skipping nothing leaves the cursor where it is. -/
@[simp] theorem skip_zero (cursor : Cursor) : cursor.skip 0 = cursor := rfl

/-- Two skips are one. -/
@[simp] theorem skip_skip (cursor : Cursor) (count more : Nat) :
    (cursor.skip count).skip more = cursor.skip (count + more) := by
  -- The offset grows by both counts.
  rw [skip, skip, skip, Nat.add_assoc]

/-- Equal skips that end at one place begin at one place. -/
theorem skip_injective (count : Nat) :
    Function.Injective fun cursor : Cursor => cursor.skip count := by
  -- The buffer stays, and the offsets differ from the last one by the same count.
  rintro ⟨buffer, offset⟩ ⟨other, otherOffset⟩ same
  simpa [skip] using same

/-- A later place of the same buffer is a skip away. -/
theorem skip_of_buffer_eq {start place : Cursor} (buffer : place.buffer = start.buffer)
    (order : start.offset ≤ place.offset) :
    start.skip (place.offset - start.offset) = place := by
  -- The skip makes up for the difference of the offsets.
  rw [skip, Nat.add_sub_cancel' order, ← buffer]

/-- The cursor is at the end where nothing is left. -/
theorem atEnd_iff_rest {cursor : Cursor} : cursor.atEnd = true ↔ cursor.rest = [] := by
  -- The rest has as many bytes as remain.
  rw [atEnd_iff, ← length_rest, List.length_eq_zero_iff]

/-- Elsewhere something is left. -/
theorem atEnd_eq_false_iff {cursor : Cursor} : cursor.atEnd = false ↔ cursor.rest ≠ [] := by
  -- It is the other answer to the same question.
  rw [← Bool.not_eq_true, ne_eq, atEnd_iff_rest]

/-- Where something is left, a reading takes up at least one byte of it. -/
theorem width_reading_pos {cursor : Cursor} (filled : cursor.rest ≠ []) :
    0 < cursor.reading.width := by
  -- Only an empty view is read without taking up a byte.
  apply Nat.pos_of_ne_zero
  intro nothing
  exact filled (Utf8.read_width_eq_zero_iff.mp nothing)

/-- The step over a rune fails at the end, and elsewhere it passes what is read. -/
theorem next?_eq (cursor : Cursor) :
    cursor.next? = if cursor.atEnd then none else some (cursor.skip cursor.reading.width) := by
  -- What is read lies within the rest, so there is always room for the step.
  have within : cursor.reading.width ≤ cursor.remaining := by
    rw [reading, ← length_rest]
    exact Utf8.read_width_le _
  have standing : cursor.reading.width = 0 ↔ cursor.atEnd = true := by
    rw [atEnd_iff_rest, reading, Utf8.read_width_eq_zero_iff]
  rw [next?]
  by_cases ended : cursor.atEnd = true
  · rw [if_pos (standing.mpr ended), if_pos ended]
  · rw [if_neg (fun still => ended (standing.mp still)), if_neg ended]
    exact advance?_eq_some.mpr ⟨within, rfl⟩

/-- The step over a rune fails where nothing is left. -/
theorem next?_eq_none_iff {cursor : Cursor} : cursor.next? = none ↔ cursor.rest = [] := by
  -- That is where the cursor is at the end.
  rw [next?_eq, ← atEnd_iff_rest]
  cases cursor.atEnd <;> simp

/-- The step over a rune succeeds where something is left, and passes what is read. -/
theorem next?_eq_some_iff {cursor next : Cursor} :
    cursor.next? = some next ↔ cursor.rest ≠ [] ∧ cursor.skip cursor.reading.width = next := by
  -- It is the two cases of the step.
  rw [next?_eq]
  cases ended : cursor.atEnd with
  | true => simp [atEnd_iff_rest.mp ended]
  | false => simp [atEnd_eq_false_iff.mp ended]

/-- The step over a rune skips bytes that are left, at least one of them. -/
theorem exists_skip_of_next? {cursor next : Cursor} (stepped : cursor.next? = some next) :
    ∃ count ≤ cursor.remaining, 0 < count ∧ next = cursor.skip count := by
  -- They are those of the reading.
  obtain ⟨filled, rfl⟩ := next?_eq_some_iff.mp stepped
  have within := Utf8.read_width_le cursor.rest
  rw [length_rest] at within
  exact ⟨cursor.reading.width, within, width_reading_pos filled, rfl⟩

/-- The cursor has passed no more than its buffer holds. -/
def InBuffer (cursor : Cursor) : Prop := cursor.offset ≤ cursor.buffer.length

/-- Bytes that are left can be skipped without leaving the buffer. -/
theorem InBuffer.skip {cursor : Cursor} (inside : cursor.InBuffer) {count : Nat}
    (within : count ≤ cursor.remaining) : (cursor.skip count).InBuffer := by
  -- There are as many bytes between the cursor and the end.
  rw [InBuffer] at inside
  rw [remaining] at within
  show cursor.offset + count ≤ cursor.buffer.length
  omega

/-- A skip makes progress if it passes anything at all. -/
theorem progress?_skip (cursor : Cursor) (count : Nat) :
    cursor.progress? (cursor.skip count) =
      if 0 < count then some (cursor.skip count) else none := by
  -- The offset grows by the count.
  rw [progress?, offset_skip]
  by_cases further : 0 < count
  · rw [if_pos (by omega), if_pos further]
  · rw [if_neg (by omega), if_neg further]

/-- Whether a skip makes progress is told by its count. -/
theorem isSome_progress?_skip (cursor : Cursor) (count : Nat) :
    (cursor.progress? (cursor.skip count)).isSome = decide (0 < count) := by
  -- It is the condition of the skip.
  rw [progress?_skip]
  by_cases further : 0 < count
  · rw [if_pos further, decide_eq_true further, Option.isSome_some]
  · rw [if_neg further, decide_eq_false further, Option.isSome_none]

/-- A loop that stays where it is unless it makes progress is where its skip ends. -/
theorem getD_progress?_skip (cursor : Cursor) (count : Nat) :
    (cursor.progress? (cursor.skip count)).getD cursor = cursor.skip count := by
  -- A skip that makes no progress passes nothing.
  rw [progress?_skip]
  by_cases further : 0 < count
  · rw [if_pos further, Option.getD_some]
  · rw [if_neg further, Option.getD_none, Nat.eq_zero_of_not_pos further, skip_zero]

end RuneScan.Cursor
