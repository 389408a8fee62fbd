import RuneScan.Proofs.Cursor.Boundary
import RuneScan.Proofs.Script.Landmark

/-! A rune by itself, the set that it makes up, and the property of being equal to it. -/

namespace RuneScan

namespace Cursor

/-- From here on, the rune is read only where it stands encoded. -/
def Unambiguous (rune : Char) (cursor : Cursor) : Prop :=
  -- Malformed bytes are read as replacements, and a text has none.
  rune ≠ Utf8.replacement ∨ ∃ text, cursor.rest = Utf8.encode text

namespace Unambiguous

variable {rune : Char} {cursor next : Cursor}

/-- Behind another rune, this is still so. -/
theorem of_next? (unambiguous : cursor.Unambiguous rune) (stepped : cursor.next? = some next) :
    next.Unambiguous rune := by
  -- That the rune is no replacement does not depend on what is left.
  refine unambiguous.imp_right ?_
  rintro ⟨text, left⟩
  -- The step takes the first rune off the text.
  obtain ⟨back, rfl, rfl⟩ := (Passes.single stepped).eq_skip_of_rest left
  exact ⟨back, by rw [rest_skip, left, Utf8.encode_append, List.drop_left]⟩

/-- The rune stands encoded exactly where it is read. -/
theorem encodeRune_prefix_iff (unambiguous : cursor.Unambiguous rune) :
    Utf8.encodeRune rune <+: cursor.rest ↔ cursor.atEnd = false ∧ cursor.rune = rune := by
  constructor
  -- Where the rune stands encoded it is read, and so something is left.
  · intro encoded
    obtain ⟨standing, stepped⟩ := next?_of_encodeRune encoded
    exact ⟨atEnd_eq_false_iff.mpr (next?_eq_some_iff.mp stepped).1, standing⟩
  · rintro ⟨more, rfl⟩
    rcases Utf8.read_cases cursor.rest with ⟨standing, after, whole, reads⟩ | ⟨malformed, reads⟩
    · rw [Cursor.rune, reading, reads, whole]
      exact List.prefix_append ..
    · -- A text that is not empty is not malformed in front.
      exfalso
      -- Malformed bytes would be read as the replacement.
      rcases unambiguous with other | ⟨text, left⟩
      · rw [Cursor.rune, reading, reads] at other
        exact other rfl
      · have filled := atEnd_eq_false_iff.mp more
        rw [left, Utf8.encode] at malformed filled
        cases runes : text.toList with
        | nil => exact filled (by rw [runes, List.flatMap_nil])
        | cons first others =>
          rw [runes, List.flatMap_cons,
            Utf8.scalar?_of_encodeRune_prefix (List.prefix_append ..)] at malformed
          contradiction

/-- The rune as a text is seen exactly where it is seen as a set. -/
theorem sees_singleton (unambiguous : cursor.Unambiguous rune) :
    cursor.sees (.exactly (String.singleton rune)) =
      cursor.sees (.oneOf (String.singleton rune)) := by
  -- The set has one rune, which is read only where the text stands.
  rw [Bool.eq_iff_iff, sees, sees, List.isPrefixOf_iff_prefix, Utf8.encode_singleton,
    unambiguous.encodeRune_prefix_iff, String.toList_singleton]
  simp

/-- The rune as a text is accepted with the same outcome as a rune of the set. -/
theorem accept?_singleton (unambiguous : cursor.Unambiguous rune) :
    cursor.accept? (.exactly (String.singleton rune)) =
      cursor.accept? (.oneOf (String.singleton rune)) := by
  apply Option.ext
  intro next
  rw [accept?_exactly_eq_some_iff, accept?_eq_some_iff, ← unambiguous.sees_singleton, sees,
    List.isPrefixOf_iff_prefix, Utf8.encode_singleton, Utf8.encodeRune_length, stepOver?]
  -- The bytes of the text are those of the rune that is read.
  refine and_congr_right fun seen => ?_
  rw [(next?_of_encodeRune seen).2, Option.some.injEq]

end Unambiguous

end Cursor

namespace Script

/-- Two landmarks make no difference at a cursor, in any of what is done with them. -/
structure Coincide (first second : Landmark) (cursor : Cursor) : Prop where
  /-- The cursor is at both or at none. -/
  isAt_eq : first.isAt cursor = second.isAt cursor
  /-- They are passed once with the same outcome. -/
  pass_eq : first.pass.outcome cursor = second.pass.outcome cursor
  /-- They are passed with the same outcome as often as they follow. -/
  passMany_eq : first.passMany.outcome cursor = second.passMany.outcome cursor
  /-- They are skipped up to with the same outcome. -/
  skipTo_eq : first.skipTo.outcome cursor = second.skipTo.outcome cursor

namespace Landmark

section Congruence

variable (holds : Cursor → Prop) {first second : Landmark}
  (each : ∀ place next, holds place → place.next? = some next → holds next)
  (steps : ∀ place next, second.behind? place = some next → place.next? = some next)
  (alike : ∀ place, holds place → first.behind? place = second.behind? place)
include each steps alike

/-- Landmarks that are passed alike once are passed alike as often as they follow. -/
theorem behindAll_congr {cursor : Cursor} (now : holds cursor) :
    first.behindAll cursor = second.behindAll cursor := by
  -- The induction follows the passes of the second landmark, which the first one shares.
  induction cursor using passes_induction second with
  | stop cursor stuck => rw [behindAll_stop stuck, behindAll_stop ((alike cursor now).trans stuck)]
  | step cursor next passed ih =>
    rw [behindAll_step passed, behindAll_step ((alike cursor now).trans passed)]
    exact ih (each cursor next now (steps cursor next passed))

/-- Landmarks that are passed alike once, rune by rune, coincide. -/
theorem coincide_of_behind? {cursor : Cursor} (now : holds cursor) :
    Coincide first second cursor := by
  -- Being at a landmark is being able to pass it, so these agree as well.
  have isAt : ∀ place, holds place → first.isAt place = second.isAt place := by
    intro place there
    rw [Landmark.isAt_eq, Landmark.isAt_eq, alike place there]
  refine ⟨isAt cursor now, ?_, ?_, ?_⟩
  · rw [outcome_pass, outcome_pass, alike cursor now]
  · rw [outcome_passMany, outcome_passMany, behindAll_congr holds each steps alike now]
  · rw [outcome_skipTo, outcome_skipTo, Cursor.walk, Cursor.walk,
      Cursor.walkUntil_congr each isAt now]

end Congruence

/-- A set and the property of belonging to it coincide. -/
theorem oneOf_coincide_having (set : String) (cursor : Cursor) :
    Coincide (.oneOf set) (.having fun rune => set.toList.contains rune) cursor := by
  -- Both test the rune at the cursor, and both step over it.
  have alike : ∀ place : Cursor, (Landmark.oneOf set).behind? place =
      (Landmark.having fun rune => set.toList.contains rune).behind? place := by
    intro place
    rw [behind?, behind?, Cursor.accept?, Cursor.acceptBy?, Cursor.seesBy, Cursor.sees]
    cases ended : place.atEnd <;> rfl
  -- They agree everywhere, so there is no condition to keep.
  refine coincide_of_behind? (fun _ => True) (fun _ _ _ _ => trivial) ?_
    (fun place _ => alike place) trivial
  intro place next passed
  exact (Cursor.acceptBy?_eq_some_iff.mp passed).2

/--
A rune as a text, the set that it makes up and the property of being equal to it coincide.

The rune may be any other than the replacement, whatever bytes are left. The replacement is read
from malformed bytes too, so the same is true of it where what is left is the encoding of a text.
-/
theorem singleton_coincide (rune : Char) (cursor : Cursor)
    (unambiguous : rune ≠ Utf8.replacement ∨ ∃ text, cursor.rest = Utf8.encode text) :
    Coincide (.exactly (String.singleton rune) String.singleton_ne_empty)
        (.oneOf (String.singleton rune)) cursor ∧
      Coincide (.oneOf (String.singleton rune)) (.having (· == rune)) cursor := by
  refine ⟨?_, ?_⟩
  -- Being read without doubt is kept by steps over runes.
  · apply coincide_of_behind? (Cursor.Unambiguous rune) ?_ ?_ ?_ unambiguous
    · exact fun _ _ unambiguous stepped => unambiguous.of_next? stepped
    · exact fun _ _ passed => (Cursor.accept?_eq_some_iff.mp passed).2
    · exact fun _ unambiguous => unambiguous.accept?_singleton
  -- To be in the set is to be equal to its only rune.
  · have equal : (fun other => (String.singleton rune).toList.contains other) = (· == rune) := by
      funext other
      rw [String.toList_singleton, List.contains_cons, List.contains_nil, Bool.or_false]
    rw [← equal]
    exact oneOf_coincide_having (String.singleton rune) cursor

/-- A rune of two bytes coincides amid halves of it, and the replacement does within a text. -/
theorem singleton_coincide_amid_halves :
    let halves := Cursor.ofBytes [0xC3, 0xC3, 0xA9, 0xC3, 0xA9, 0xA9]
    let text := Cursor.ofText "a\uFFFD"
    'é' ≠ Utf8.replacement ∧
      (Coincide (.exactly (String.singleton 'é') String.singleton_ne_empty)
          (.oneOf (String.singleton 'é')) halves ∧
        Coincide (.oneOf (String.singleton 'é')) (.having (· == 'é')) halves) ∧
      text.rest = Utf8.encode "a\uFFFD" ∧
      Coincide (.exactly (String.singleton Utf8.replacement) String.singleton_ne_empty)
          (.oneOf (String.singleton Utf8.replacement)) text ∧
        Coincide (.oneOf (String.singleton Utf8.replacement)) (.having (· == Utf8.replacement))
          text := by
  intro halves text
  -- Bad bytes are read as no other rune than the replacement, and a text has none.
  have other : 'é' ≠ Utf8.replacement := by decide
  have left : text.rest = Utf8.encode "a\uFFFD" := Cursor.rest_ofText _
  exact ⟨other, singleton_coincide 'é' halves (Or.inl other), left,
    singleton_coincide Utf8.replacement text (Or.inr ⟨_, left⟩)⟩

/-- A byte that begins no rune is read as the replacement, but it is not its encoding. -/
example :
    (Cursor.ofBytes [0xFF]).sees (.oneOf "\uFFFD") = true ∧
      (Cursor.ofBytes [0xFF]).sees (.exactly "\uFFFD") = false := by
  decide +kernel

end Landmark

end Script

end RuneScan
