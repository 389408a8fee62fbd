import RuneScan.Cursor.Pattern
import RuneScan.Proofs.Cursor.Passage
import RuneScan.Proofs.Cursor.Skip

/-! Operations that go on as long as they can keep what each of their steps keeps. -/

namespace RuneScan

/-- Whether a pattern makes a difference between capital and small letters. -/
def Pattern.isCaseSensitive : Pattern → Bool
  | .anyCase _ => false
  | _ => true

namespace Cursor

/-- A match is accepted if it is seen and there is room for the step over it. -/
theorem accept?_eq_some_iff {cursor next : Cursor} {pattern : Pattern} :
    cursor.accept? pattern = some next ↔
      cursor.sees pattern = true ∧ cursor.stepOver? pattern = some next := by
  -- Nothing is stepped over unless it is seen.
  rw [accept?]
  split
  · rename_i seen
    simp [seen]
  · rename_i unseen
    simp [unseen]

/-- A text is accepted where its bytes are next, and by stepping over them. -/
theorem accept?_exactly_eq_some_iff {cursor next : Cursor} {text : String} :
    cursor.accept? (.exactly text) = some next ↔
      Utf8.encode text <+: cursor.rest ∧ cursor.skip (Utf8.encode text).length = next := by
  rw [accept?_eq_some_iff, sees, stepOver?, advance?_eq_some, List.isPrefixOf_iff_prefix]
  -- The bytes that are next are among those that are left.
  refine and_congr_right fun seen => ?_
  have fits := seen.length_le
  rw [length_rest] at fits
  rw [and_iff_right fits]

/-- A rune is accepted if something is left and the answer about it is yes. -/
theorem acceptBy?_eq_some_iff {cursor next : Cursor} {query : Query} {asked : List Char} :
    (cursor.acceptBy? query asked).result = some next ↔
      query asked cursor.rune = true ∧ cursor.next? = some next := by
  -- Nothing is asked at the end.
  rw [acceptBy?, seesBy, next?_eq]
  cases cursor.atEnd <;> simp

/-- No rune is accepted at the end, nor where the answer is no. -/
theorem acceptBy?_eq_none_iff {cursor : Cursor} {query : Query} {asked : List Char} :
    (cursor.acceptBy? query asked).result = none ↔
      (query asked cursor.rune = true → cursor.next? = none) := by
  -- Nothing is asked at the end.
  rw [acceptBy?, seesBy, next?_eq]
  cases cursor.atEnd <;> simp

/-- Passing matches ends where none is accepted. -/
theorem passAll_stop {cursor : Cursor} {pattern : Pattern}
    (stuck : cursor.accept? pattern = none) : cursor.passAll pattern = cursor := by
  rw [passAll, stuck]

/-- Passing matches goes on behind each one that leaves fewer bytes. -/
theorem passAll_step {cursor next : Cursor} {pattern : Pattern}
    (accepted : cursor.accept? pattern = some next) :
    cursor.passAll pattern =
      if next.remaining < cursor.remaining then next.passAll pattern else cursor := by
  rw [passAll, accepted]

/-- Progress leads to the later of two cursors, and only forward. -/
theorem progress?_eq_some_iff {earlier later next : Cursor} :
    earlier.progress? later = some next ↔ later = next ∧ earlier.offset < next.offset := by
  -- The test compares the two offsets.
  rw [progress?]
  split
  · rename_i further
    simp only [Option.some.injEq, iff_self_and]
    rintro rfl
    exact further
  · rename_i behind
    simp only [reduceCtorEq, false_iff, not_and]
    rintro rfl
    exact behind

section Invariants

variable {holds : Cursor → Prop}

/-- What every accepted match of a pattern keeps is kept by accepting as many as there are. -/
theorem passAll_keeps {pattern : Pattern}
    (each : ∀ place next, holds place → place.accept? pattern = some next → holds next)
    {cursor : Cursor} (now : holds cursor) : holds (cursor.passAll pattern) := by
  -- The induction follows the matches.
  fun_induction passAll cursor pattern with
  | case1 => exact now
  | case2 cursor next accepted _ ih => exact ih (each cursor next now accepted)
  | case3 => exact now

variable (each : ∀ place next, holds place → place.next? = some next → holds next)
include each

/-- What every step over a rune keeps is kept by passing runes while the answer is yes. -/
theorem passWhile_keeps {query : Query} {asked : List Char} {cursor : Cursor}
    (now : holds cursor) : holds (cursor.passWhile query asked).result := by
  -- A yes steps over the rune.
  fun_induction passWhile cursor query asked with
  | case1 => exact now
  | case2 cursor asked runes next accepted later ih =>
    exact ih (each cursor next now (acceptBy?_eq_some_iff.mp accepted).2)

/-- What every step over a rune keeps is kept by passing runes while the answer is no. -/
theorem passUntil_keeps {query : Query} {asked : List Char} {cursor : Cursor}
    (now : holds cursor) : holds (cursor.passUntil query asked).result := by
  -- A no steps over the rune.
  fun_induction passUntil cursor query asked with
  | case1 => exact now
  | case2 cursor asked runes next declined later ih =>
    exact ih (each cursor next now (declineBy?_eq_some_iff.mp declined).2)

/-- What every step over a rune keeps is kept by a walk. -/
theorem walkUntil_keeps {stops : Cursor → Bool} {cursor : Cursor} {moved : Bool}
    (now : holds cursor) : holds (cursor.walkUntil stops moved).reached := by
  -- The walk steps over one rune after another.
  fun_induction walkUntil stops cursor moved with
  | case1 => exact now
  | case2 => exact now
  | case3 cursor moved _ next stepped ih => exact ih (each cursor next now stepped)

/-- Walks are the same if they would stop alike at every place that they can come to. -/
theorem walkUntil_congr {stops others : Cursor → Bool}
    (alike : ∀ place, holds place → stops place = others place) {cursor : Cursor}
    (now : holds cursor) (moved : Bool) :
    cursor.walkUntil stops moved = cursor.walkUntil others moved := by
  -- The walk steps over one rune after another.
  fun_induction walkUntil stops cursor moved with
  | case1 cursor moved ended =>
    rw [alike cursor now, Bool.or_eq_true] at ended
    rw [walkUntil_stop moved ended]
  | case2 cursor moved _ stuck =>
    rw [walkUntil_stop moved (Or.inl (atEnd_iff_rest.mpr (next?_eq_none_iff.mp stuck)))]
  | case3 cursor moved goes next stepped ih =>
    rw [alike cursor now, Bool.or_eq_true, not_or, Bool.not_eq_true, Bool.not_eq_true] at goes
    rw [walkUntil_step moved goes.1 goes.2, (next?_eq_some_iff.mp stepped).2]
    exact ih (each cursor next now stepped)

end Invariants

end Cursor

end RuneScan
