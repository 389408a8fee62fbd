import RuneScan.Cursor.Query
import RuneScan.Proofs.Bytes.Search
import RuneScan.Proofs.Cursor.Stepping

/-! Walks step over one rune after another until they come to a place where they stop. -/

namespace RuneScan.Cursor

/-- How far a walk has come. -/
structure Walk where
  /-- Whether it has made any step. -/
  moved : Bool
  /-- Where it is. -/
  reached : Cursor
  deriving DecidableEq

/-- Steps over runes until nothing is left, or the place is one to stop at. -/
def walkUntil (stops : Cursor → Bool) (cursor : Cursor) (moved : Bool) : Walk :=
  -- The place is looked at before every step.
  if cursor.atEnd || stops cursor then ⟨moved, cursor⟩
  else
    match _ : cursor.next? with
    | none => ⟨moved, cursor⟩
    | some next => next.walkUntil stops true
termination_by cursor.remaining
decreasing_by exact next?_remaining_lt ‹_›

/-- The walk from a cursor that has not been moved yet. -/
def walk (cursor : Cursor) (stops : Cursor → Bool) : Walk := cursor.walkUntil stops false

/-- A walk makes no step at the end, nor at a place to stop at. -/
theorem walkUntil_stop {stops : Cursor → Bool} {cursor : Cursor} (moved : Bool)
    (ended : cursor.atEnd = true ∨ stops cursor = true) :
    cursor.walkUntil stops moved = ⟨moved, cursor⟩ := by
  -- The place is looked at before the step.
  rw [walkUntil, if_pos (by simpa using ended)]

/-- At every other place a walk steps over the rune there and goes on. -/
theorem walkUntil_step {stops : Cursor → Bool} {cursor : Cursor} (moved : Bool)
    (more : cursor.atEnd = false) (goes : stops cursor = false) :
    cursor.walkUntil stops moved =
      (cursor.skip cursor.reading.width).walkUntil stops true := by
  -- Where something is left, the step over the rune succeeds.
  have stepped : cursor.next? = some (cursor.skip cursor.reading.width) := by
    rw [next?_eq, if_neg (by simp [more])]
  rw [walkUntil, if_neg (by simp [more, goes])]
  split
  · rename_i stuck
    rw [stepped] at stuck
    contradiction
  · rename_i next reached
    rw [stepped, Option.some.injEq] at reached
    rw [reached]

private theorem remaining_skip_width_lt {cursor : Cursor} (more : cursor.atEnd = false) :
    (cursor.skip cursor.reading.width).remaining < cursor.remaining := by
  -- It is the step of the walk.
  apply next?_remaining_lt
  rw [next?_eq, if_neg (by simp [more])]

/-- A walk skips some bytes, and it has moved exactly if these are any. -/
theorem exists_walkUntil_eq_skip (stops : Cursor → Bool) (cursor : Cursor) (moved : Bool) :
    ∃ count, cursor.walkUntil stops moved = ⟨moved || decide (0 < count), cursor.skip count⟩ := by
  -- The induction is on the bytes that remain, of which each step passes some.
  induction remains : cursor.remaining using Nat.strongRecOn generalizing cursor moved with
  | ind remaining ih =>
    cases ended : cursor.atEnd with
    | true =>
      exact ⟨0, by rw [walkUntil_stop moved (Or.inl ended)]; simp⟩
    | false =>
      cases stopped : stops cursor with
      | true => exact ⟨0, by rw [walkUntil_stop moved (Or.inr stopped)]; simp⟩
      | false =>
        have fewer := remaining_skip_width_lt ended
        obtain ⟨count, walked⟩ := ih _ (by omega) (cursor.skip cursor.reading.width) true rfl
        refine ⟨cursor.reading.width + count, ?_⟩
        rw [walkUntil_step moved ended stopped, walked, skip_skip]
        -- The first step alone has passed a byte.
        have positive : 0 < cursor.reading.width := by
          apply Nat.pos_of_ne_zero
          intro nothing
          rw [nothing, skip_zero] at fewer
          omega
        simp [Nat.add_pos_left positive]

/--
A walk stops at the first place from which on the rest has a property.

That property has to be the one that the walk stops at, and it must not begin inside a rune.
-/
theorem walkUntil_eq_of_firstPlace {stops : Cursor → Bool} {holds : Bytes → Prop}
    (agrees : ∀ place : Cursor, place.rest ≠ [] → (stops place = true ↔ holds place.rest))
    (atRunes : ∀ view inside, inside < (Utf8.read view).width → holds (view.drop inside) →
      holds view)
    {cursor : Cursor} {count : Nat} (first : Bytes.FirstPlace holds cursor.rest count)
    (moved : Bool) :
    cursor.walkUntil stops moved = ⟨moved || decide (0 < count), cursor.skip count⟩ := by
  -- The induction is on the bytes that remain, and each step brings the place nearer.
  induction remains : cursor.remaining using Nat.strongRecOn
    generalizing cursor moved count with
  | ind remaining ih =>
    cases ended : cursor.atEnd with
    | true =>
      have within := first.within
      rw [atEnd_iff_rest.mp ended, List.length_nil] at within
      rw [walkUntil_stop moved (Or.inl ended), Nat.le_zero.mp within]
      simp
    | false =>
      have nonempty := atEnd_eq_false_iff.mp ended
      cases stopped : stops cursor with
      | true =>
        -- The rest has the property already, so no place is earlier.
        have now := (agrees cursor nonempty).mp stopped
        have here : count = 0 := by
          apply Nat.le_zero.mp
          apply Nat.le_of_not_lt
          intro later
          exact first.before 0 later now
        rw [walkUntil_stop moved (Or.inr stopped), here]
        simp
      | false =>
        have notNow : ¬ holds cursor.rest := by
          rw [← agrees cursor nonempty, stopped]
          simp
        -- The place does not lie within the rune that is stepped over.
        have beyond : cursor.reading.width ≤ count := by
          apply Nat.le_of_not_lt
          intro inside
          rcases first.reached with found | atLast
          · exact notNow (atRunes _ _ inside found)
          · have fits := Utf8.read_width_le cursor.rest
            rw [reading] at inside
            omega
        have fewer := remaining_skip_width_lt ended
        have nearer := first.drop beyond
        rw [← rest_skip] at nearer
        have positive : 0 < cursor.reading.width := width_reading_pos nonempty
        rw [walkUntil_step moved ended stopped, ih _ (by omega) nearer true rfl, skip_skip,
          Nat.add_sub_cancel' beyond]
        simp [Nat.lt_of_lt_of_le positive beyond]

end RuneScan.Cursor
