import RuneScan.Bytes.Basic

/-! Runes and texts are written down as UTF-8. -/

namespace RuneScan.Utf8

/-- The bytes that stand for one rune. -/
def encodeRune (rune : Char) : Bytes :=
  -- One to four bytes, the shortest form that holds the scalar value.
  String.utf8EncodeChar rune

/-- The bytes that stand for a text. -/
def encode (text : String) : Bytes :=
  -- The runes follow one another with nothing between them.
  text.toList.flatMap encodeRune

/-- A rune takes as many bytes as its width says. -/
@[simp] theorem encodeRune_length (rune : Char) : (encodeRune rune).length = rune.utf8Size := by
  -- The standard encoder fixes the length of every form.
  simp [encodeRune]

/-- Joined texts are encoded by joining their bytes. -/
theorem encode_append (front back : String) :
    encode (front ++ back) = encode front ++ encode back := by
  -- No byte depends on the runes around its own.
  simp [encode]

/-- A text of one rune is encoded as that rune. -/
@[simp] theorem encode_singleton (rune : Char) :
    encode (String.singleton rune) = encodeRune rune := by
  -- There are no other runes to join.
  simp [encode]

/-- The bytes of a text are counted as its size. -/
theorem length_encode (text : String) : (encode text).length = text.utf8ByteSize := by
  -- A text is kept in memory as the same bytes.
  rw [← String.size_toByteArray, ← String.utf8Encode_toList, List.utf8Encode, encode]
  simp

/-- Only a text with nothing in it takes no bytes. -/
theorem length_encode_pos_iff {text : String} : 0 < (encode text).length ↔ text ≠ "" := by
  -- Every rune takes at least one byte.
  rw [length_encode, Nat.pos_iff_ne_zero, ne_eq, String.utf8ByteSize_eq_zero_iff]

end RuneScan.Utf8
