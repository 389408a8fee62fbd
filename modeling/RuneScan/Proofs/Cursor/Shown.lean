import RuneScan.Proofs.Cursor.Boundary

/-! What is shown for a stretch of bytes are the runes of a walk over it, but for replacements. -/

namespace RuneScan.Cursor

/-- A walk goes over all of the runes that are left, and then it is at the end. -/
theorem passes_runes (cursor : Cursor) :
    cursor.Passes (Utf8.runes cursor.rest) (cursor.skip cursor.remaining) := by
  -- The end is a place ahead, which a passage comes to or which is inside of a rune.
  obtain ⟨runes, place, behind, passes, reached, inner⟩ :=
    exists_passes_around (Nat.le_refl cursor.remaining)
  have ended : place.rest.drop behind = [] := by
    rw [← rest_skip, reached, rest_skip, ← length_rest, List.drop_length]
  -- A rune that is reached lies within the rest, so the end is not inside of one.
  have exact : behind = 0 := by
    rcases inner with reaches | inside
    · exact reaches
    · have fits := Utf8.read_width_le place.rest
      rw [List.drop_eq_nil_iff] at ended
      rw [reading] at inside
      omega
  rw [exact] at ended reached
  rw [List.drop_zero] at ended
  rw [passes.runes_rest, ended, Utf8.runes_nil, List.append_nil, ← reached]
  exact passes

/-- A text shows some bytes as the runes that a walk over them finds, but for replacements. -/
structure ShowsWalk (view : Bytes) (text : String) (runes : List Char) : Prop where
  /-- Steps from the beginning of the bytes go over these runes, until nothing is left. -/
  walked : ∃ last, (ofBytes view).Passes runes last ∧ last.next? = none
  /-- Without the replacements, the text has the same runes. -/
  plain : text.toList.filter (· != Utf8.replacement) = runes.filter (· != Utf8.replacement)
  /-- The text has no more runes than the walk finds. -/
  length_le : text.toList.length ≤ runes.length
  /-- The bytes of a text are shown as that text, which the walk goes over rune by rune. -/
  whole : ∀ source, view = Utf8.encode source → text.toList = runes ∧ Utf8.encode text = view

/-- The text of a stretch of bytes shows what a walk over these bytes finds. -/
theorem showsWalk_lossy (view : Bytes) : ShowsWalk view (Utf8.lossy view) (Utf8.runes view) := by
  -- The text leaves out replacements of the runes that are walked over, and nothing else.
  obtain ⟨fewer, plain⟩ := Utf8.lossyRunes_sublist_runes view
  rw [← @String.toList_ofList (Utf8.lossyRunes view)] at fewer plain
  have walked := passes_runes (ofBytes view)
  rw [rest_ofBytes] at walked
  have ended : ((ofBytes view).skip (ofBytes view).remaining).atEnd = true := by
    rw [atEnd_iff_rest, rest_skip, ← length_rest, List.drop_length]
  refine ⟨⟨_, walked, ?_⟩, plain, fewer.length_le, ?_⟩
  · rw [next?_eq, if_pos ended]
  · rintro source rfl
    rw [Utf8.lossy_encode, Utf8.runes_encode]
    exact ⟨rfl, rfl⟩

/--
Bytes are shown as the runes of a walk over them, but for replacements.

A walk steps over malformed bytes one at a time, and the text shows one replacement for each
ill-formed part. So it is for what is left, for what has been passed, and for what is captured.
-/
theorem shown_as_walked (cursor mark : Cursor) :
    ShowsWalk cursor.rest (toString cursor) (Utf8.runes cursor.rest) ∧
      ShowsWalk (cursor.since mark) (cursor.textSince mark) (Utf8.runes (cursor.since mark)) ∧
      ∀ held, ShowsWalk (cursor.since mark) (mark.capture held true cursor)
        (Utf8.runes (cursor.since mark)) := by
  -- All three are the text of a stretch of bytes.
  exact ⟨showsWalk_lossy _, showsWalk_lossy _, fun _ => showsWalk_lossy _⟩

end RuneScan.Cursor
