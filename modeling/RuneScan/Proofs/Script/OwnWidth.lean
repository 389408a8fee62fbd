import RuneScan.Proofs.Script.Landmark

/-! A rune is stepped over by its own width or by the width read, and bad bytes tell them apart. -/

namespace RuneScan

namespace Cursor

/-- A step over bytes does the same as the step over the rune there if it has the width read. -/
theorem advance?_eq_next?_iff {cursor : Cursor} {count : Nat} (positive : 0 < count) :
    cursor.advance? count = cursor.next? ↔ cursor.rest = [] ∨ count = cursor.reading.width := by
  -- The two kinds of places are the end, where both fail, and all others.
  rw [next?_eq]
  cases ended : cursor.atEnd with
  | true =>
    -- At the end there is nothing to pass for either step.
    have spent : cursor.remaining = 0 := (atEnd_iff cursor).mp ended
    have refused : cursor.advance? count = none := by
      rw [advance?, if_pos (by omega)]
    simp [refused, atEnd_iff_rest.mp ended]
  | false =>
    have within := Utf8.read_width_le cursor.rest
    rw [length_rest] at within
    rw [if_neg Bool.false_ne_true, advance?_eq_some]
    constructor
    -- Both steps are made, and lead equally far only by the same number of bytes.
    · rintro ⟨_, same⟩
      have places := congrArg offset same
      rw [offset_skip, offset_skip] at places
      exact Or.inr (by omega)
    · rintro (nothing | rfl)
      · exact absurd nothing (atEnd_eq_false_iff.mp ended)
      · exact ⟨within, rfl⟩

/-- The rune at the cursor has the width of the step over it unless it is read from a bad byte. -/
theorem advanceOver?_rune_eq_next?_iff {cursor : Cursor} :
    cursor.advanceOver? cursor.rune = cursor.next? ↔
      cursor.rest = [] ∨ ∃ rune, Utf8.encodeRune rune <+: cursor.rest := by
  -- A reading has the width of its rune exactly where that stands encoded.
  rw [advanceOver?, advance?_eq_next?_iff (Char.utf8Size_pos _),
    ← Utf8.utf8Size_read_eq_width_iff]
  rfl

end Cursor

namespace Script

/-- Steps from one place have the same outcome only if they lead to the same place, if any. -/
theorem Outcome.ofStep_injective (start : Cursor) : Function.Injective (Outcome.ofStep start) := by
  -- Whether it succeeds tells if there is a step, and then it leads to its end.
  intro first second same
  simp only [ofStep, Outcome.mk.injEq] at same
  cases first <;> cases second <;> simp_all

/--
To pass as many bytes as the rune at the cursor takes up is to pass that rune, or else bad bytes.

The outcomes are the same exactly where nothing is left or some rune stands encoded. On other bytes
it is passed as the one byte that was read, and by its width as three, or not at all if fewer are left.
-/
theorem advanceOver_rune_eq_next_iff (cursor : Cursor) :
    ((Move.advanceOver cursor.rune).outcome cursor = Move.next.outcome cursor ↔
        cursor.rest = [] ∨ ∃ rune, Utf8.encodeRune rune <+: cursor.rest) ∧
      (cursor.rest ≠ [] → (∀ rune, ¬ Utf8.encodeRune rune <+: cursor.rest) →
        Move.next.outcome cursor = ⟨true, cursor.skip 1⟩ ∧
          (Move.advanceOver cursor.rune).outcome cursor =
            if 3 ≤ cursor.remaining then ⟨true, cursor.skip 3⟩ else ⟨false, cursor⟩) := by
  -- Both moves are steps from the same place, and so they are compared as steps.
  have next : Move.next.outcome cursor = .ofStep cursor cursor.next? := rfl
  have byWidth : (Move.advanceOver cursor.rune).outcome cursor =
      .ofStep cursor (cursor.advanceOver? cursor.rune) := rfl
  rw [next, byWidth]
  refine ⟨?_, ?_⟩
  · rw [(Outcome.ofStep_injective cursor).eq_iff, Cursor.advanceOver?_rune_eq_next?_iff]
  · intro filled malformed
    -- The replacement has three bytes, and it was read from one.
    have reads : cursor.reading = ⟨Utf8.replacement, 1⟩ :=
      Utf8.read_of_no_encodeRune filled malformed
    refine ⟨?_, ?_⟩
    · rw [Cursor.next?_eq_some_iff.mpr ⟨filled, rfl⟩, reads]
      rfl
    · rw [Cursor.advanceOver?, Cursor.rune, reads, Utf8.utf8Size_replacement, Cursor.advance?]
      by_cases enough : 3 ≤ cursor.remaining
      · rw [if_neg (by omega), if_pos enough]
        rfl
      · rw [if_pos (by omega), if_neg enough]
        rfl

/-- A byte that begins no rune is passed by itself, and its replacement only if two more follow. -/
theorem advanceOver_rune_at_bad_byte :
    let cut := Cursor.ofBytes [0xF0, 0x61]
    let stray := Cursor.ofBytes [0x80, 0x61, 0x62, 0x63]
    ((cut.rest ≠ [] ∧ ∀ rune, ¬ Utf8.encodeRune rune <+: cut.rest) ∧
      Move.next.outcome cut = ⟨true, cut.skip 1⟩ ∧
      (Move.advanceOver cut.rune).outcome cut = ⟨false, cut⟩) ∧
    (stray.rest ≠ [] ∧ ∀ rune, ¬ Utf8.encodeRune rune <+: stray.rest) ∧
      Move.next.outcome stray = ⟨true, stray.skip 1⟩ ∧
      (Move.advanceOver stray.rune).outcome stray = ⟨true, stray.skip 3⟩ := by
  intro cut stray
  -- What the decoder refuses begins with no rune.
  have malformed : ∀ cursor : Cursor, Utf8.scalar? cursor.rest = none →
      ∀ rune, ¬ Utf8.encodeRune rune <+: cursor.rest := by
    intro cursor refused rune encoded
    have decoded := Utf8.scalar?_of_encodeRune_prefix encoded
    rw [refused] at decoded
    contradiction
  have filled : cut.rest ≠ [] ∧ stray.rest ≠ [] := by decide
  have bad := And.intro (malformed cut (by decide)) (malformed stray (by decide))
  obtain ⟨passedCut, overCut⟩ := (advanceOver_rune_eq_next_iff cut).2 filled.1 bad.1
  obtain ⟨passedStray, overStray⟩ := (advanceOver_rune_eq_next_iff stray).2 filled.2 bad.2
  rw [if_neg (by decide)] at overCut
  rw [if_pos (by decide)] at overStray
  exact ⟨⟨⟨filled.1, bad.1⟩, passedCut, overCut⟩, ⟨filled.2, bad.2⟩, passedStray, overStray⟩

end Script

end RuneScan
