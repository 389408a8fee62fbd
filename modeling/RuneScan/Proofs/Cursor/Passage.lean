import RuneScan.Proofs.Cursor.Stepping

/-! Passages step over one rune after another, and no bytes before a text lead them astray. -/

namespace RuneScan.Cursor

/-- Steps over the given runes, one after another, lead from one cursor to another. -/
inductive Passes : Cursor → List Char → Cursor → Prop where
  /-- Without a step the cursor stays where it is. -/
  | still (cursor : Cursor) : Passes cursor [] cursor
  /-- The first step is over the rune at the cursor, and the others begin behind it. -/
  | step {cursor next last : Cursor} {runes : List Char} (stepped : cursor.next? = some next)
      (later : Passes next runes last) : Passes cursor (cursor.rune :: runes) last

/-- Some passage leads from one cursor to another. -/
def LeadsTo (start last : Cursor) : Prop := ∃ runes, start.Passes runes last

/-- The step over a rune that stands encoded at the cursor passes its bytes. -/
theorem next?_of_encodeRune {cursor : Cursor} {rune : Char}
    (encoded : Utf8.encodeRune rune <+: cursor.rest) :
    cursor.rune = rune ∧ cursor.next? = some (cursor.skip rune.utf8Size) := by
  -- The rune is what is read, and it takes up bytes.
  have reads : cursor.reading = ⟨rune, rune.utf8Size⟩ := Utf8.read_of_encodeRune_prefix encoded
  have filled : cursor.rest ≠ [] := by
    intro nothing
    have width := Utf8.read_width_eq_zero_iff.mpr nothing
    rw [← reading, reads] at width
    exact absurd width (Nat.ne_of_gt rune.utf8Size_pos)
  refine ⟨by rw [Cursor.rune, reads], ?_⟩
  rw [next?_eq_some_iff, reads]
  exact ⟨filled, rfl⟩

namespace Passes

variable {start middle last : Cursor} {runes others : List Char}

/-- One step is a passage. -/
theorem single (stepped : start.next? = some middle) : start.Passes [start.rune] middle :=
  step stepped (still middle)

/-- Two passages in a row are one. -/
theorem trans (first : start.Passes runes middle) (second : middle.Passes others last) :
    start.Passes (runes ++ others) last := by
  -- The steps of the second come after those of the first.
  induction first with
  | still => exact second
  | step stepped _ ih => exact step stepped (ih second)

/-- A passage skips bytes that were left. -/
theorem exists_skip (passes : start.Passes runes last) :
    ∃ count ≤ start.remaining, last = start.skip count := by
  -- Each step takes up its width, which does not reach beyond the end.
  induction passes with
  | still cursor => exact ⟨0, Nat.zero_le _, rfl⟩
  | @step cursor next _ _ stepped _ ih =>
    obtain ⟨count, within, reached⟩ := ih
    obtain ⟨width, fits, _, skipped⟩ := exists_skip_of_next? stepped
    rw [skipped, remaining_skip] at within
    exact ⟨width + count, by omega, by rw [reached, skipped, skip_skip]⟩

/-- The runes of a passage are what is read before it ends. -/
theorem runes_rest (passes : start.Passes runes last) :
    Utf8.runes start.rest = runes ++ Utf8.runes last.rest := by
  -- Each step takes one rune off the rest.
  induction passes with
  | still => rfl
  | step stepped _ ih =>
    obtain ⟨filled, skipped⟩ := next?_eq_some_iff.mp stepped
    rw [Utf8.runes_of_ne_nil filled, List.cons_append, ← ih, ← skipped, rest_skip]
    rfl

/-- A passage stays in its buffer. -/
theorem buffer_eq (passes : start.Passes runes last) : last.buffer = start.buffer := by
  -- Skipping bytes changes the offset only.
  obtain ⟨count, _, rfl⟩ := passes.exists_skip
  rfl

/-- A passage never leads back. -/
theorem offset_le (passes : start.Passes runes last) : start.offset ≤ last.offset := by
  -- Skipping bytes puts the offset forward.
  obtain ⟨count, _, rfl⟩ := passes.exists_skip
  exact Nat.le_add_right ..

/-- A passage is determined by its runes. -/
theorem unique (first : start.Passes runes middle) (second : start.Passes runes last) :
    middle = last := by
  -- There is only one step to make from each place.
  induction first with
  | still =>
    cases second
    rfl
  | step stepped _ ih =>
    cases second with
    | step again later =>
      rw [stepped, Option.some.injEq] at again
      subst again
      exact ih later

/-- Of two passages from one place, one goes on where the other ends. -/
theorem linear (first : start.Passes runes middle) (second : start.Passes others last) :
    middle.LeadsTo last ∨ last.LeadsTo middle := by
  -- There is only one step to make from each place.
  induction first generalizing others with
  | still => exact Or.inl ⟨_, second⟩
  | step stepped later ih =>
    cases second with
    | still => exact Or.inr ⟨_, step stepped later⟩
    | step again beyond =>
      rw [stepped, Option.some.injEq] at again
      subst again
      exact ih beyond

/-- A passage ends where it begins, or behind the rune that it begins at. -/
theorem eq_or_width_le (passes : start.Passes runes last) :
    last = start ∨ start.offset + start.reading.width ≤ last.offset := by
  -- The first step takes up the whole reading.
  cases passes with
  | still => exact Or.inl rfl
  | step stepped later =>
    right
    obtain ⟨_, rfl⟩ := next?_eq_some_iff.mp stepped
    exact later.offset_le

end Passes

/-- Every place leads to itself. -/
theorem LeadsTo.refl (start : Cursor) : start.LeadsTo start := ⟨[], Passes.still start⟩

/-- What a place leads to leads on to what it leads to itself. -/
theorem LeadsTo.trans {start middle last : Cursor} (first : start.LeadsTo middle)
    (second : middle.LeadsTo last) : start.LeadsTo last := by
  -- The two passages are one.
  obtain ⟨_, first⟩ := first
  obtain ⟨_, second⟩ := second
  exact ⟨_, first.trans second⟩

/-- Of two places on the way from a third, the one before leads to the one behind. -/
theorem LeadsTo.of_le {start middle last : Cursor} (first : start.LeadsTo middle)
    (second : start.LeadsTo last) (order : middle.offset ≤ last.offset) : middle.LeadsTo last := by
  -- A passage the other way around would have to stand still.
  obtain ⟨_, first⟩ := first
  obtain ⟨_, second⟩ := second
  rcases first.linear second with leads | ⟨_, passes⟩
  · exact leads
  · obtain ⟨count, _, rfl⟩ := passes.exists_skip
    have still : count = 0 := by
      rw [offset_skip] at order
      omega
    rw [still, skip_zero]
    exact LeadsTo.refl last

/-- Encoded runes at the front of the rest are passed one by one. -/
theorem passes_of_prefix {runes : List Char} {cursor : Cursor}
    (encoded : runes.flatMap Utf8.encodeRune <+: cursor.rest) :
    cursor.Passes runes (cursor.skip (runes.flatMap Utf8.encodeRune).length) := by
  -- The induction is on the runes, of which the first is read and stepped over.
  induction runes generalizing cursor with
  | nil => exact Passes.still cursor
  | cons rune runes ih =>
    rw [List.flatMap_cons] at encoded ⊢
    obtain ⟨rest, whole⟩ := encoded
    rw [List.append_assoc] at whole
    obtain ⟨standing, stepped⟩ := next?_of_encodeRune ⟨_, whole⟩
    have later : runes.flatMap Utf8.encodeRune <+: (cursor.skip rune.utf8Size).rest := by
      rw [rest_skip, ← whole, ← Utf8.encodeRune_length, List.drop_left]
      exact ⟨rest, rfl⟩
    have passes := Passes.step stepped (ih later)
    rwa [standing, skip_skip, ← Utf8.encodeRune_length, ← List.length_append] at passes

/-- Every place ahead is reached by a passage, unless it lies inside of a rune that one reaches. -/
theorem exists_passes_around {cursor : Cursor} {count : Nat} (within : count ≤ cursor.remaining) :
    ∃ runes place behind, cursor.Passes runes place ∧ place.skip behind = cursor.skip count ∧
      (behind = 0 ∨ behind < place.reading.width) := by
  -- The induction is on the bytes up to the place, of which each step takes up some.
  induction count using Nat.strongRecOn generalizing cursor with
  | ind count ih =>
    by_cases inside : count < cursor.reading.width
    · exact ⟨[], cursor, count, Passes.still cursor, rfl, Or.inr inside⟩
    by_cases nothing : count = 0
    · exact ⟨[], cursor, 0, Passes.still cursor, by rw [nothing], Or.inl rfl⟩
    have filled : cursor.rest ≠ [] := by
      rw [ne_eq, ← List.length_eq_zero_iff, length_rest]
      omega
    have taken := width_reading_pos filled
    have left : count - cursor.reading.width ≤ (cursor.skip cursor.reading.width).remaining := by
      rw [remaining_skip]
      omega
    obtain ⟨runes, place, behind, passes, reached, inner⟩ := ih _ (by omega) left
    refine ⟨cursor.rune :: runes, place, behind, ?_, ?_, inner⟩
    · exact Passes.step (next?_eq_some_iff.mpr ⟨filled, rfl⟩) passes
    · rw [reached, skip_skip, Nat.add_sub_cancel' (Nat.le_of_not_lt inside)]

/-- A place with no continuation byte is reached by a passage from every place before it. -/
theorem leadsTo_of_no_tail {cursor : Cursor} {count : Nat} (within : count ≤ cursor.remaining)
    (begins : ∀ byte ∈ (cursor.skip count).rest.head?, Utf8.continues byte = false) :
    cursor.LeadsTo (cursor.skip count) := by
  -- Inside of a rune there would be a continuation byte.
  obtain ⟨runes, place, behind, passes, reached, inner⟩ := exists_passes_around within
  by_cases exact : behind = 0
  · rw [exact, skip_zero] at reached
    exact ⟨runes, reached ▸ passes⟩
  · exfalso
    have inside : behind < place.reading.width := by omega
    obtain ⟨byte, rest, there, continuing⟩ :=
      Utf8.continues_inside (Nat.pos_of_ne_zero exact) inside
    rw [← reached, rest_skip, there] at begins
    have clear := begins byte rfl
    rw [continuing] at clear
    contradiction

/-- A place where several bytes are read as one rune is reached from every place before it. -/
theorem LeadsTo.of_wide {start place : Cursor} (buffer : place.buffer = start.buffer)
    (order : start.offset ≤ place.offset) (wide : 1 < place.reading.width) :
    start.LeadsTo place := by
  have skipped := skip_of_buffer_eq buffer order
  have fits := Utf8.read_width_le place.rest
  rw [length_rest, remaining, buffer] at fits
  rw [reading] at wide
  rw [← skipped]
  apply leadsTo_of_no_tail
  · rw [remaining]
    omega
  -- What is read there begins with no continuation byte.
  obtain ⟨first, tail, after, whole, _, begins, _⟩ := Utf8.exists_tail_of_wide wide
  rw [skipped, whole]
  rintro byte standing
  cases standing
  exact begins

/-- No passage ends inside of a rune that another one from the same place comes to. -/
theorem LeadsTo.not_inside {start place : Cursor} {count : Nat} (leads : start.LeadsTo place)
    (further : 0 < count) (inside : count < place.reading.width) :
    ¬ start.LeadsTo (place.skip count) := by
  -- Going on from that rune would mean to step over all of it.
  intro ends
  obtain ⟨_, passes⟩ := leads.of_le ends (Nat.le_add_right ..)
  rcases passes.eq_or_width_le with same | beyond
  · have places := congrArg Cursor.offset same
    rw [offset_skip] at places
    omega
  · rw [offset_skip] at beyond
    omega

/-- A text is passed rune by rune wherever it stands encoded. -/
theorem passes_of_encode_prefix {cursor : Cursor} {text : String}
    (encoded : Utf8.encode text <+: cursor.rest) :
    cursor.Passes text.toList (cursor.skip (Utf8.encode text).length) :=
  passes_of_prefix encoded

private theorem continues_head_encode {text : String} (nonempty : text ≠ "") (rest : Bytes) :
    ∀ byte ∈ (Utf8.encode text ++ rest).head?, Utf8.continues byte = false := by
  -- The first byte is that of the first rune.
  rw [Utf8.encode]
  cases runes : text.toList with
  | nil => exact absurd (String.toList_eq_nil_iff.mp runes) nonempty
  | cons rune others =>
    obtain ⟨first, tail, encoded, begins, _⟩ := Utf8.exists_encodeRune_eq_cons rune
    rw [List.flatMap_cons, encoded]
    rintro byte standing
    cases standing
    exact begins

/--
A passage from the beginning of a buffer comes to every text that stands encoded in it.

Whatever bytes stand before it and after it, the passage then goes over the runes of the text, each
by its own width, and leaves it at its end.
-/
theorem passes_text_amid (before after : Bytes) (text : String) :
    (text ≠ "" →
      let start := Cursor.ofBytes (before ++ Utf8.encode text ++ after)
      let place := start.skip before.length
      start.LeadsTo place ∧
        place.Passes text.toList (place.skip (Utf8.encode text).length) ∧
        ∀ front rune back, text = front ++ String.singleton rune ++ back →
          let inner := place.skip (Utf8.encode front).length
          place.Passes front.toList inner ∧ inner.rune = rune ∧
            inner.next? = some (inner.skip rune.utf8Size)) ∧
      let whole := Cursor.ofText text
      whole.Passes text.toList (whole.skip (Utf8.encode text).length) ∧
        (whole.skip (Utf8.encode text).length).next? = none := by
  refine ⟨?_, ?_, ?_⟩
  · intro nonempty start place
    have standing : place.rest = Utf8.encode text ++ after := by
      rw [rest_skip, rest_ofBytes, List.append_assoc, List.drop_left]
    refine ⟨?_, ?_, ?_⟩
    · -- The text begins with a byte that no rune before it can have as a tail.
      apply leadsTo_of_no_tail
      · rw [← length_rest]
        simp [start]
      · intro byte first
        rw [standing] at first
        exact continues_head_encode nonempty after byte first
    · exact passes_of_encode_prefix ⟨after, standing.symm⟩
    · rintro front rune back rfl inner
      rw [Utf8.encode_append, Utf8.encode_append, Utf8.encode_singleton] at standing
      have here : Utf8.encodeRune rune <+: inner.rest := by
        rw [rest_skip, standing, List.append_assoc, List.append_assoc, List.drop_left]
        exact List.prefix_append ..
      refine ⟨?_, next?_of_encodeRune here⟩
      rw [List.append_assoc, List.append_assoc] at standing
      exact passes_of_encode_prefix ⟨_, standing.symm⟩
  · apply passes_of_encode_prefix
    exact ⟨[], by rw [rest_ofText, List.append_nil]⟩
  · have ended : ((ofText text).skip (Utf8.encode text).length).rest = [] := by
      rw [rest_skip, rest_ofText, List.drop_length]
    rw [next?_eq, if_pos (atEnd_iff_rest.mpr ended)]

/-- Two bytes of a rune that was cut off do not hide the text behind them. -/
theorem passes_text_after_cut :
    let start := Cursor.ofBytes ([0xE4, 0xB8] ++ Utf8.encode "é☃" ++ [0xBF])
    "é☃" ≠ "" ∧ start.LeadsTo (start.skip 2) ∧
      (start.skip 2).Passes "é☃".toList ((start.skip 2).skip (Utf8.encode "é☃").length) := by
  -- The text is not empty.
  intro start
  have filled : "é☃" ≠ "" := by decide
  have passages := (passes_text_amid [0xE4, 0xB8] [0xBF] "é☃").1 filled
  exact ⟨filled, passages.1, passages.2.1⟩

end RuneScan.Cursor
