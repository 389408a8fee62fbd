import RuneScan.Proofs.Cursor.Boundary
import RuneScan.Proofs.Script.Landmark

/-! Skipping to a landmark and passing it, over and over, splits a view at the landmark. -/

namespace RuneScan

namespace Bytes

/-- The fields of a view between the occurrences of a needle, which are taken from the front on. -/
inductive Splits (needle : Bytes) : Bytes → List Bytes → Prop where
  /-- A view in which the needle does not occur is one field. -/
  | last {view : Bytes} (absent : ¬ needle <:+: view) : Splits needle view [view]
  /-- The first field ends where the needle first occurs, and the others begin behind it. -/
  | cut {view field rest : Bytes} {fields : List Bytes} (whole : field ++ needle ++ rest = view)
      (first : ∀ place < field.length, ¬ needle <+: view.drop place)
      (later : Splits needle rest fields) : Splits needle view (field :: fields)

/-- What comes behind a front part begins with a needle that stands between it and a back part. -/
theorem prefix_drop_append (front needle back : Bytes) :
    needle <+: (front ++ needle ++ back).drop front.length := by
  -- It is left where the front part is taken off.
  rw [List.append_assoc, List.drop_left]
  exact List.prefix_append ..

namespace Splits

variable {needle view : Bytes} {fields others : List Bytes}

/-- The fields are joined to the view by the needle. -/
theorem intercalate (splits : Splits needle view fields) :
    List.intercalate needle fields = view := by
  -- The induction is on the fields, and there is one more behind each needle.
  induction splits with
  | last => exact List.intercalate_singleton
  | @cut view field rest fields whole _ later ih =>
    cases fields with
    | nil => cases later
    | cons next fields => rw [List.intercalate_cons_cons, ih, whole]

/-- The fields of a view are the only ones. -/
theorem unique (splits : Splits needle view fields) (again : Splits needle view others) :
    fields = others := by
  -- The induction takes the first field off, and the needle behind it.
  induction splits generalizing others with
  | last absent =>
    cases again with
    | last => rfl
    | @cut _ field rest _ whole =>
      exact absurd ⟨field, rest, whole⟩ absent
  | @cut view field rest fields whole first _ ih =>
    have standing : needle <+: view.drop field.length := whole ▸ prefix_drop_append ..
    cases again with
    | last absent => exact absurd ⟨field, rest, whole⟩ absent
    | @cut _ other back _ alsoWhole alsoFirst later =>
      have alsoStanding : needle <+: view.drop other.length := alsoWhole ▸ prefix_drop_append ..
      -- Neither field can end before the other one.
      have sizes : field.length = other.length := by
        apply Nat.le_antisymm
        · exact Nat.le_of_not_lt fun shorter => first _ shorter alsoStanding
        · exact Nat.le_of_not_lt fun shorter => alsoFirst _ shorter standing
      rw [← alsoWhole, List.append_assoc, List.append_assoc] at whole
      obtain ⟨rfl, tails⟩ := List.append_inj whole sizes
      obtain rfl := List.append_cancel_left tails
      rw [ih later]

end Splits

/-- A needle with something in it that first stands at the end of a view does not occur in it. -/
theorem FirstPlace.not_infix {needle view : Bytes} (filled : needle ≠ [])
    (first : FirstPlace (needle <+: ·) view view.length) : ¬ needle <:+: view := by
  -- The needle would end within the view, and so begin before the end.
  rintro ⟨before, after, whole⟩
  have positive := List.length_pos_iff.mpr filled
  have sizes := congrArg List.length whole
  rw [List.length_append, List.length_append] at sizes
  exact first.before before.length (by omega) (whole ▸ prefix_drop_append ..)

end Bytes

namespace Script

/-- What comes of splitting a view. -/
structure Split where
  /-- The fields, from the front on. -/
  fields : List Bytes
  /-- Where the cursor is in the end. -/
  reached : Cursor

namespace Landmark

/-- Passing a landmark once succeeds behind it. -/
theorem behind?_of_succeeded {landmark : Landmark} {cursor : Cursor}
    (succeeded : (landmark.pass.outcome cursor).succeeded = true) :
    landmark.behind? cursor = some (landmark.pass.outcome cursor).reached := by
  -- The outcome is that of the step behind the landmark.
  rw [outcome_pass] at succeeded ⊢
  cases passed : landmark.behind? cursor with
  | none =>
    rw [passed] at succeeded
    contradiction
  | some next => rfl

/-- Passing a landmark once fails where there is none, and stays there. -/
theorem behind?_of_fails {landmark : Landmark} {cursor : Cursor}
    (fails : ¬ (landmark.pass.outcome cursor).succeeded = true) :
    landmark.behind? cursor = none ∧ (landmark.pass.outcome cursor).reached = cursor := by
  -- The outcome is that of the step behind the landmark, which is not made.
  rw [outcome_pass] at fails ⊢
  cases passed : landmark.behind? cursor with
  | none => exact ⟨rfl, rfl⟩
  | some next =>
    rw [passed] at fails
    exact absurd rfl fails

/-- Takes what comes before the landmark as a field, passes the landmark, and goes on behind it. -/
def split (landmark : Landmark) (cursor : Cursor) : Split :=
  let stop := (landmark.skipTo.outcome cursor).reached
  -- The field may hold nothing, where one landmark follows another.
  let field := stop.since cursor
  let passed := landmark.pass.outcome stop
  if _ : passed.succeeded = true then
    let later := landmark.split passed.reached
    ⟨field :: later.fields, later.reached⟩
  else ⟨[field], passed.reached⟩
termination_by cursor.remaining
decreasing_by
  exact Nat.lt_of_lt_of_le (behind?_remaining_lt (behind?_of_succeeded ‹_›))
    (landmark.skipTo_goesWhile cursor).remaining_le

/-- The loop that takes the fields ends where nothing is left. -/
theorem atEnd_split (landmark : Landmark) (cursor : Cursor) :
    (landmark.split cursor).reached.atEnd = true := by
  -- The induction follows the fields.
  fun_induction split landmark cursor with
  | case1 cursor stop field passed succeeded later ih => exact ih
  | case2 cursor stop field passed fails =>
    obtain ⟨stuck, stays⟩ := behind?_of_fails fails
    -- The skip has not ended at the landmark, so it has ended at the end.
    have away : landmark.isAt stop = false := by rw [isAt_eq, stuck, Option.isSome_none]
    have ended : (!(stop.atEnd || landmark.isAt stop)) = false :=
      (landmark.skipTo_goesWhile cursor).ended
    rw [away, Bool.or_false, Bool.not_eq_false'] at ended
    rwa [show passed.reached = stop from stays]

section Text

variable (text : String) (filled : text ≠ "") (cursor : Cursor)

/-- Skipping up to a text cuts the view in two where the text first occurs, or at the end. -/
theorem exists_firstPlace :
    let stop := ((Landmark.exactly text filled).skipTo.outcome cursor).reached
    ∃ place, Bytes.FirstPlace (Utf8.encode text <+: ·) cursor.rest place ∧
      stop.since cursor = cursor.rest.take place ∧ stop.rest = cursor.rest.drop place := by
  -- The skip leads where the walk stops, which is the first place of the text.
  intro stop
  obtain ⟨place, first⟩ : ∃ place, Bytes.FirstPlace (Utf8.encode text <+: ·) cursor.rest place :=
    ⟨_, Bytes.firstPlace_occurrence? (Utf8.encode text) cursor.rest⟩
  have walked : (cursor.walk (Landmark.exactly text filled).isAt).reached = cursor.skip place :=
    congrArg Cursor.Walk.reached (Cursor.walk_exactly_eq first)
  have stops : stop = cursor.skip place := by
    rw [show stop = _ from congrArg Outcome.reached (outcome_skipTo ..), walked,
      Outcome.ofStep_progress?_skip]
  have within := first.within
  rw [Cursor.length_rest] at within
  rw [stops]
  exact ⟨place, first, Cursor.since_skip within, Cursor.rest_skip ..⟩

/-- The loop takes the fields between the occurrences of a text. -/
theorem splits_split :
    Bytes.Splits (Utf8.encode text) cursor.rest
      ((Landmark.exactly text filled).split cursor).fields := by
  -- The induction follows the fields.
  fun_induction split (Landmark.exactly text filled) cursor with
  | case1 cursor stop field passed succeeded later ih =>
    obtain ⟨place, first, taken, left⟩ := exists_firstPlace text filled cursor
    obtain ⟨⟨rest, occurs⟩, behind⟩ :=
      Cursor.accept?_exactly_eq_some_iff.mp (behind?_of_succeeded succeeded)
    -- Behind the text, the view is what is left for the other fields.
    have others : passed.reached.rest = rest := by
      rw [← behind, Cursor.rest_skip, ← occurs, List.drop_left]
    rw [others] at ih
    have size : field.length = place := by
      rw [show field = _ from taken, List.length_take, Nat.min_eq_left first.within]
    -- The field ends at the first place, so the text stands nowhere before its end.
    refine Bytes.Splits.cut ?_ ?_ ih
    · rw [List.append_assoc, occurs, show stop.rest = _ from left, show field = _ from taken,
        List.take_append_drop]
    · rw [size]
      exact first.before
  | case2 cursor stop field passed fails =>
    obtain ⟨place, first, taken, left⟩ := exists_firstPlace text filled cursor
    obtain ⟨stuck, _⟩ := behind?_of_fails fails
    -- The text does not stand where the skip has ended, so this is the end.
    have ended : place = cursor.rest.length := by
      refine first.reached.resolve_left fun occurs => ?_
      rw [← left] at occurs
      have accepted := Cursor.accept?_exactly_eq_some_iff.mpr ⟨occurs, rfl⟩
      rw [show stop.accept? (.exactly text) = none from stuck] at accepted
      contradiction
    rw [ended] at first
    rw [show field = _ from taken, ended, List.take_length]
    refine Bytes.Splits.last (first.not_infix ?_)
    exact List.length_pos_iff.mp (Utf8.length_encode_pos_iff.mpr filled)

/--
Splitting a view at a text loses none of its bytes.

The loop that takes what comes before the text, and passes the text, ends where nothing is left. The
fields are those between the first occurrences of the text, and joined by it they are the view.
-/
theorem split_at_text :
    let split := (Landmark.exactly text filled).split cursor
    split.reached.atEnd = true ∧
      List.intercalate (Utf8.encode text) split.fields = cursor.rest ∧
      ∀ fields, Bytes.Splits (Utf8.encode text) cursor.rest fields ↔ fields = split.fields := by
  -- The fields of the loop are cut at first occurrences, and there are no others.
  intro split
  have splits := splits_split text filled cursor
  refine ⟨atEnd_split _ cursor, splits.intercalate, fun fields => ⟨?_, ?_⟩⟩
  · exact fun others => others.unique splits
  · rintro rfl
    exact splits

/-- Of a run of three equal runes two are taken, and a malformed byte stays in its field. -/
theorem split_at_text_overlapping :
    ∃ filled : "aa" ≠ "",
      let split := (Landmark.exactly "aa" filled).split
        (Cursor.ofBytes [0x61, 0x61, 0x61, 0xC3, 0x61, 0x61])
      split.reached.atEnd = true ∧ split.fields = [[], [0x61, 0xC3], []] := by
  have filled : "aa" ≠ "" := by decide
  have splits := split_at_text "aa" filled
    (Cursor.ofBytes [0x61, 0x61, 0x61, 0xC3, 0x61, 0x61])
  refine ⟨filled, splits.1, ((splits.2.2 _).mp ?_).symm⟩
  rw [Cursor.rest_ofBytes]
  refine Bytes.Splits.cut (show [] ++ _ ++ [0x61, 0xC3, 0x61, 0x61] = _ by decide +kernel) ?_ ?_
  · decide +kernel
  refine Bytes.Splits.cut (show [0x61, 0xC3] ++ _ ++ [] = _ by decide +kernel) ?_ ?_
  · decide +kernel
  exact Bytes.Splits.last (by decide +kernel)

end Text

end Landmark

end Script

end RuneScan
