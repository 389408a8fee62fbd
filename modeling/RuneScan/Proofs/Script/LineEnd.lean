import RuneScan.Proofs.Script.SingleRune

/-! A line ends where a break is read or nothing is left, and skipping finds the first such place. -/

namespace RuneScan

namespace Cursor

/-- The first of the places that passages come to at which something holds. -/
structure FirstAlong (holds : Cursor → Bool) (start place : Cursor) : Prop where
  /-- A passage comes to the place. -/
  leads : start.LeadsTo place
  /-- It holds there. -/
  here : holds place = true
  /-- It holds nowhere that a passage comes to before. -/
  before : ∀ earlier, start.LeadsTo earlier → earlier.offset < place.offset →
    holds earlier = false

namespace FirstAlong

variable {holds : Cursor → Bool} {start place other : Cursor}

/-- A first place does not lie behind another one. -/
theorem offset_le (first : start.FirstAlong holds place) (second : start.FirstAlong holds other) :
    place.offset ≤ other.offset := by
  -- It would be a place before the first one.
  apply Nat.le_of_not_lt
  intro order
  have away := first.before other second.leads order
  rw [second.here] at away
  contradiction

/-- There is no more than one first place. -/
theorem unique (first : start.FirstAlong holds place) (second : start.FirstAlong holds other) :
    place = other := by
  -- Passages skip bytes of one buffer, so that the offsets tell the places apart.
  have same := Nat.le_antisymm (first.offset_le second) (second.offset_le first)
  obtain ⟨_, passes⟩ := first.leads
  obtain ⟨_, others⟩ := second.leads
  obtain ⟨count, _, rfl⟩ := passes.exists_skip
  obtain ⟨more, _, rfl⟩ := others.exists_skip
  rw [offset_skip, offset_skip] at same
  rw [Nat.add_left_cancel same]

end FirstAlong

/-- A walk ends at the first place along its way where nothing is left or it has to stop. -/
theorem firstAlong_walkUntil (stops : Cursor → Bool) (cursor : Cursor) (moved : Bool) :
    cursor.FirstAlong (fun place => place.atEnd || stops place)
      (cursor.walkUntil stops moved).reached := by
  -- The induction follows the steps of the walk, each of which is one of every passage.
  fun_induction walkUntil stops cursor moved with
  | case1 cursor moved ended =>
    -- Nothing lies before the place where a passage begins.
    refine ⟨LeadsTo.refl cursor, ended, ?_⟩
    rintro earlier ⟨_, passes⟩ order
    exact absurd passes.offset_le (Nat.not_le_of_lt order)
  | case2 cursor moved going stuck =>
    have ended := atEnd_iff_rest.mpr (next?_eq_none_iff.mp stuck)
    simp [ended] at going
  | case3 cursor moved going next stepped ih =>
    refine ⟨LeadsTo.trans ⟨_, Passes.single stepped⟩ ih.leads, ih.here, ?_⟩
    -- An earlier place is the one that the step begins at, or it lies behind that step.
    rintro earlier ⟨_, passes⟩ order
    cases passes with
    | still => simpa using going
    | step again later =>
      rw [stepped, Option.some.injEq] at again
      subst again
      exact ih.before earlier ⟨_, later⟩ order

/-- A rune out of a set without the replacement is seen only where it stands encoded. -/
theorem sees_oneOf_iff_encoded {cursor : Cursor} {set : String}
    (proper : Utf8.replacement ∉ set.toList) :
    cursor.sees (.oneOf set) = true ↔
      ∃ rune ∈ set.toList, Utf8.encodeRune rune <+: cursor.rest := by
  -- A rune other than the replacement is read only where it stands encoded.
  have readable : ∀ rune ∈ set.toList, cursor.Unambiguous rune := by
    intro rune member
    exact Or.inl fun same => proper (same ▸ member)
  rw [sees, Bool.and_eq_true, Bool.not_eq_true', List.contains_iff_mem]
  constructor
  · rintro ⟨more, member⟩
    exact ⟨cursor.rune, member, (readable _ member).encodeRune_prefix_iff.mpr ⟨more, rfl⟩⟩
  · rintro ⟨rune, member, encoded⟩
    obtain ⟨more, standing⟩ := (readable rune member).encodeRune_prefix_iff.mp encoded
    exact ⟨more, standing ▸ member⟩

/-- The bytes of the two runes that break lines. -/
theorem encode_lineBreaks : Utf8.encode "\r\n" = [0x0D, 0x0A] := by decide +kernel

/-- A line ends at the end and where one of the two bytes comes next. -/
theorem atLineEnd_iff_byte {cursor : Cursor} :
    cursor.atLineEnd = true ↔
      cursor.rest = [] ∨ Bytes.BeginsWithAny (Utf8.encode "\r\n") cursor.rest := by
  -- The first byte of what is left decides, if there is one.
  rw [atLineEnd, encode_lineBreaks]
  cases cursor.rest with
  | nil => simp
  | cons byte rest => simp [Bytes.BeginsWithAny, or_comm]

private theorem isAscii_lineBreaks : Bytes.isAscii (Utf8.encode "\r\n") = true := by
  rw [encode_lineBreaks]
  decide

/-- A line ends where nothing is left and where one of the two runes is seen. -/
theorem atLineEnd_eq_sees (cursor : Cursor) :
    cursor.atLineEnd = (cursor.atEnd || cursor.sees (.oneOf "\r\n")) := by
  -- A byte of ASCII stands for a rune, wherever it stands.
  rw [Bool.eq_iff_iff, atLineEnd_iff_byte, Bool.or_eq_true, atEnd_iff_rest,
    sees_oneOf_iff_beginsWithAny isAscii_lineBreaks]

/-- A walk up to a line break comes to the first place along its way where a line ends. -/
theorem firstAlong_atLineEnd (cursor : Cursor) :
    cursor.FirstAlong atLineEnd (cursor.walk (·.sees (.oneOf "\r\n"))).reached := by
  -- The walk stops exactly where a line ends.
  have stops : atLineEnd = fun place => place.atEnd || place.sees (.oneOf "\r\n") := by
    funext place
    exact atLineEnd_eq_sees place
  rw [stops]
  exact firstAlong_walkUntil (·.sees (.oneOf "\r\n")) cursor false

/-- A walk up to a line break comes to the first place where one of its bytes stands. -/
theorem exists_firstPlace_lineBreak (cursor : Cursor) :
    ∃ count, (cursor.walk (·.sees (.oneOf "\r\n"))).reached = cursor.skip count ∧
      Bytes.FirstPlace (Bytes.BeginsWithAny [0x0D, 0x0A]) cursor.rest count := by
  -- The walk ends where a search for the two bytes does.
  have first := Bytes.firstPlace_anyOf? (Utf8.encode "\r\n") cursor.rest
  refine ⟨_, congrArg Walk.reached (walk_oneOf_eq isAscii_lineBreaks first), ?_⟩
  rwa [encode_lineBreaks] at first ⊢

end Cursor

namespace Script

/--
A line ends where nothing is left and where one of the two runes that break lines is seen.

That rune has to stand there encoded. To skip up to one of the two leads to the first place of the
walk over runes where a line ends, and none of the bytes passed on the way is that of a break.
-/
theorem skipToOneOf_lineBreaks (cursor : Cursor) :
    let skipped := (Move.skipToOneOf "\r\n").outcome cursor
    cursor.atLineEnd = (cursor.atEnd || cursor.sees (.oneOf "\r\n")) ∧
      (cursor.sees (.oneOf "\r\n") = true ↔
        ∃ rune ∈ "\r\n".toList, Utf8.encodeRune rune <+: cursor.rest) ∧
      skipped.succeeded = (!cursor.atLineEnd) ∧
      (∀ place, cursor.FirstAlong Cursor.atLineEnd place ↔ place = skipped.reached) ∧
      ∃ count, skipped.reached = cursor.skip count ∧
        Bytes.FirstPlace (Bytes.BeginsWithAny [0x0D, 0x0A]) cursor.rest count := by
  intro skipped
  -- The skip leads where the walk does.
  have arrived : (Move.skipToOneOf "\r\n").run cursor =
      (cursor.walk (·.sees (.oneOf "\r\n"))).arrival := by
    rw [Move.run, Cursor.skipToOneOf?_eq, Cursor.ofStep_progress?_walk]
  have reached : skipped.reached = (cursor.walk (·.sees (.oneOf "\r\n"))).reached :=
    congrArg Arrival.cursor arrived
  have first := cursor.firstAlong_atLineEnd
  rw [reached]
  refine ⟨cursor.atLineEnd_eq_sees, Cursor.sees_oneOf_iff_encoded (by decide), ?_, ?_,
    cursor.exists_firstPlace_lineBreak⟩
  · -- The skip goes on as long as neither the end nor a break is there.
    rw [cursor.atLineEnd_eq_sees]
    exact ((Landmark.oneOf "\r\n").skipTo_goesWhile cursor).succeeded_eq
  -- There is only one first place, and the walk has come to it.
  · intro place
    exact ⟨fun found => found.unique first, fun same => same ▸ first⟩

/-- An overlong break is passed, and so are the bytes of a rune that is cut off by a break. -/
example :
    ((Move.skipToOneOf "\r\n").outcome (Cursor.ofBytes [0xC0, 0x8A, 0xE2, 0x80, 0x0A])).reached =
      (Cursor.ofBytes [0xC0, 0x8A, 0xE2, 0x80, 0x0A]).skip 4 := by
  decide +kernel

end Script

end RuneScan
