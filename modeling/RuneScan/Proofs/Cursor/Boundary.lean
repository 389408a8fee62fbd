import RuneScan.Cursor.Mark
import RuneScan.Proofs.Cursor.Passage
import RuneScan.Proofs.Utf8.Lossy

/-! In a text, passages stop between runes, and what lies between two stops is text. -/

namespace RuneScan.Cursor

/-- The cursor stands between two runes of a text, or at one of its ends. -/
def BetweenRunes (text : String) (cursor : Cursor) : Prop :=
  -- A position of a text is valid if a part of the text ends there.
  cursor.buffer = Utf8.encode text ∧ String.Pos.Raw.IsValid text ⟨cursor.offset⟩

/-- A cursor between two runes has passed a front part of the text. -/
theorem betweenRunes_iff {text : String} {cursor : Cursor} :
    BetweenRunes text cursor ↔ ∃ front back, text = front ++ back ∧
      cursor = (ofText text).skip (Utf8.encode front).length := by
  -- The size of the front part is the offset.
  rw [BetweenRunes, String.Pos.Raw.isValid_iff_exists_append]
  constructor
  · rintro ⟨whole, front, back, split, size⟩
    refine ⟨front, back, split, ?_⟩
    obtain ⟨buffer, offset⟩ := cursor
    have passed : offset = front.utf8ByteSize := congrArg String.Pos.Raw.byteIdx size
    simp only at whole
    rw [Utf8.length_encode, ← passed, whole, skip, ofText, ofBytes, Nat.zero_add]
  · rintro ⟨front, back, split, rfl⟩
    refine ⟨rfl, front, back, split, ?_⟩
    rw [Utf8.length_encode, offset_skip, ofText, ofBytes, Nat.zero_add]
    rfl

/-- A passage over an encoded text takes up the encoding of its runes. -/
theorem Passes.eq_skip_of_rest {start last : Cursor} {runes : List Char} {text : String}
    (passes : start.Passes runes last) (left : start.rest = Utf8.encode text) :
    ∃ back, text = String.ofList runes ++ back ∧
      last = start.skip (Utf8.encode (String.ofList runes)).length := by
  -- The runes of the passage are the first ones of the text.
  have whole := passes.runes_rest
  rw [left, Utf8.runes_encode] at whole
  have split : text = String.ofList runes ++ String.ofList (Utf8.runes last.rest) := by
    rw [← String.ofList_append, ← whole, String.ofList_toList]
  refine ⟨_, split, ?_⟩
  have front : Utf8.encode (String.ofList runes) <+: start.rest := by
    rw [left, split, Utf8.encode_append]
    exact List.prefix_append ..
  have again := passes_of_encode_prefix front
  rw [String.toList_ofList] at again
  exact passes.unique again

/-- The passages from the beginning of a text come to the places between its runes. -/
theorem leadsTo_ofText_iff {text : String} {cursor : Cursor} :
    (ofText text).LeadsTo cursor ↔ BetweenRunes text cursor := by
  -- The runes of a passage are a front part of the text.
  rw [betweenRunes_iff]
  constructor
  · rintro ⟨runes, passes⟩
    obtain ⟨back, split, reached⟩ := passes.eq_skip_of_rest (rest_ofText text)
    exact ⟨_, back, split, reached⟩
  · rintro ⟨front, back, split, rfl⟩
    have standing : Utf8.encode front <+: (ofText text).rest := by
      rw [rest_ofText, split, Utf8.encode_append]
      exact List.prefix_append ..
    exact ⟨_, passes_of_encode_prefix standing⟩

/-- What is left at a place between two runes is the encoding of the runes behind it. -/
theorem BetweenRunes.exists_rest_eq {text : String} {cursor : Cursor}
    (between : BetweenRunes text cursor) : ∃ back, cursor.rest = Utf8.encode back := by
  -- The bytes of the front part have been passed.
  obtain ⟨front, back, rfl, rfl⟩ := betweenRunes_iff.mp between
  exact ⟨back, by rw [rest_skip, rest_ofText, Utf8.encode_append, List.drop_left]⟩

/-- The bytes passed by a skip are the first ones that were left. -/
theorem since_skip {mark : Cursor} {count : Nat} (within : count ≤ mark.remaining) :
    (mark.skip count).since mark = mark.rest.take count := by
  -- Skipping leaves fewer bytes, by the count.
  rw [since, remaining_skip, Nat.sub_sub_self within]

/-- The bytes between two stops in a text are shown as a text that they encode. -/
theorem encode_textSince {text : String} {mark cursor : Cursor} (marked : BetweenRunes text mark)
    (between : BetweenRunes text cursor) (order : mark.offset ≤ cursor.offset) :
    Utf8.encode (cursor.textSince mark) = cursor.since mark := by
  -- The passage from the mark to the cursor goes over a part of the text.
  obtain ⟨runes, passes⟩ := LeadsTo.of_le (leadsTo_ofText_iff.mpr marked)
    (leadsTo_ofText_iff.mpr between) order
  obtain ⟨left, rest⟩ := marked.exists_rest_eq
  obtain ⟨back, rfl, rfl⟩ := passes.eq_skip_of_rest rest
  have within : (Utf8.encode (String.ofList runes)).length ≤ mark.remaining := by
    rw [← length_rest, rest, Utf8.encode_append, List.length_append]
    exact Nat.le_add_right ..
  rw [textSince, since_skip within, rest, Utf8.encode_append, List.take_left, Utf8.lossy_encode]

end RuneScan.Cursor
