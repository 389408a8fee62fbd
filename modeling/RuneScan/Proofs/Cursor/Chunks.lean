import Mathlib.Order.Bounds.Basic
import RuneScan.Proofs.Cursor.AnyCase
import RuneScan.Script.Move

/-! Accepting a text as often as possible passes as many chunks of its size as match in a row. -/

namespace RuneScan

namespace Bytes

/-- One of the chunks of a view, all of one size, counted from the front. -/
def chunk (size : Nat) (view : Bytes) (place : Nat) : Bytes :=
  -- The last one may be shorter than the others.
  (view.drop (place * size)).take size

/-- The first chunk stands in front. -/
@[simp] theorem chunk_zero (size : Nat) (view : Bytes) : chunk size view 0 = view.take size := by
  rw [chunk, Nat.zero_mul, List.drop_zero]

/-- Behind the first chunk, the places of the others are lower by one. -/
theorem chunk_succ (size : Nat) (view : Bytes) (place : Nat) :
    chunk size view (place + 1) = chunk size (view.drop size) place := by
  -- It is the same to leave out one chunk more.
  rw [chunk, chunk, List.drop_drop, Nat.succ_mul, Nat.add_comm]

/-- So many chunks at the front of a view are whole, and of one kind. -/
structure Chunks (kind : Bytes → Prop) (size : Nat) (view : Bytes) (count : Nat) : Prop where
  /-- The view is long enough for them. -/
  within : count * size ≤ view.length
  /-- Each of them is of the kind. -/
  each : ∀ place < count, kind (chunk size view place)

variable {kind : Bytes → Prop} {size : Nat} {view : Bytes}

/-- Chunks are a first one, and those of what is left behind it. -/
theorem chunks_succ_iff {count : Nat} :
    Chunks kind size view (count + 1) ↔
      (size ≤ view.length ∧ kind (view.take size)) ∧ Chunks kind size (view.drop size) count := by
  -- Places are those of the first chunk, or one more than those behind it.
  constructor
  · rintro ⟨within, each⟩
    rw [Nat.succ_mul] at within
    refine ⟨⟨by omega, ?_⟩, ?_, ?_⟩
    · rw [← chunk_zero]
      exact each 0 (Nat.succ_pos count)
    · rw [List.length_drop]
      omega
    · intro place before
      rw [← chunk_succ]
      exact each (place + 1) (Nat.succ_lt_succ before)
  · rintro ⟨⟨whole, first⟩, within, each⟩
    rw [List.length_drop] at within
    refine ⟨by rw [Nat.succ_mul]; omega, ?_⟩
    intro place before
    cases place with
    | zero => rwa [chunk_zero]
    | succ place =>
      rw [chunk_succ]
      exact each place (Nat.lt_of_succ_lt_succ before)

/-- Where no chunk of the kind stands in front, there are none in a row. -/
theorem isGreatest_zero (lacking : ¬ (size ≤ view.length ∧ kind (view.take size))) :
    IsGreatest {count | Chunks kind size view count} 0 := by
  -- More than none would begin with a first one.
  refine ⟨⟨by rw [Nat.zero_mul]; exact Nat.zero_le _, by simp⟩, ?_⟩
  rintro (_ | count) chunks
  · exact Nat.le_refl _
  · exact absurd (chunks_succ_iff.mp chunks).1 lacking

/-- A chunk of the kind in front adds one to the most that stand in a row behind it. -/
theorem isGreatest_succ {count : Nat} (whole : size ≤ view.length) (first : kind (view.take size))
    (greatest : IsGreatest {count | Chunks kind size (view.drop size) count} count) :
    IsGreatest {count | Chunks kind size view count} (count + 1) := by
  -- Any others that stand in a row begin with the same one.
  refine ⟨chunks_succ_iff.mpr ⟨⟨whole, first⟩, greatest.1⟩, ?_⟩
  rintro (_ | other) chunks
  · exact Nat.zero_le _
  · exact Nat.succ_le_succ (greatest.2 (chunks_succ_iff.mp chunks).2)

end Bytes

namespace Cursor

open Bytes (Chunks)

/-- So many matches of a pattern in a row lead from one cursor to another. -/
inductive Repeats (pattern : Pattern) : Cursor → Nat → Cursor → Prop where
  /-- Without a match, the cursor stays. -/
  | still (cursor : Cursor) : Repeats pattern cursor 0 cursor
  /-- The other matches begin where the first one ends. -/
  | step {cursor next last : Cursor} {count : Nat} (matched : cursor.accept? pattern = some next)
      (later : Repeats pattern next count last) : Repeats pattern cursor (count + 1) last

/-- A pattern is matched by chunks of one size and kind, wherever they stand. -/
def MatchesChunks (pattern : Pattern) (kind : Bytes → Prop) (size : Nat) : Prop :=
  ∀ cursor next : Cursor, cursor.accept? pattern = some next ↔
    (size ≤ cursor.remaining ∧ kind (cursor.rest.take size)) ∧ cursor.skip size = next

/-- A text is matched by its own bytes. -/
theorem matchesChunks_exactly (text : String) :
    MatchesChunks (.exactly text) (· = Utf8.encode text) (Utf8.encode text).length := by
  -- As many bytes as the text has are passed, if they are those of the text.
  intro cursor next
  rw [accept?_eq_some_iff, sees, stepOver?, advance?_eq_some, List.isPrefixOf_iff_prefix,
    List.prefix_iff_eq_take, eq_comm (a := Utf8.encode text), and_left_comm, and_assoc]

/-- A text in any case is matched by as many bytes that are equal to it but for case. -/
theorem matchesChunks_anyCase (text : String) :
    MatchesChunks (.anyCase text) (fun chunk => Text.equalAnyCase chunk (Utf8.encode text) = true)
      (Utf8.encode text).length := by
  -- The bytes compared are those passed, unless fewer are left.
  intro cursor next
  rw [accept?_eq_some_iff, sees, stepOver?, advance?_eq_some, peek, and_left_comm, and_assoc]

/-- A loop over the matches of a pattern ends behind the chunks that stand in a row. -/
structure ExhaustsChunks (cursor : Cursor) (pattern : Pattern) (kind : Bytes → Prop)
    (size count : Nat) : Prop where
  /-- No larger number of chunks at the front of what is left is of the kind. -/
  greatest : IsGreatest {count | Chunks kind size cursor.rest count} count
  /-- As many matches in a row lead behind them. -/
  repeats : cursor.Repeats pattern count (cursor.skip (count * size))
  /-- There is no further match. -/
  stops : (cursor.skip (count * size)).accept? pattern = none
  /-- The loop ends there. -/
  passAll_eq : cursor.passAll pattern = cursor.skip (count * size)

/-- A loop over matches that are not empty ends behind the chunks that stand in a row. -/
theorem exists_exhaustsChunks {pattern : Pattern} {kind : Bytes → Prop} {size : Nat}
    (matched : MatchesChunks pattern kind size) (filled : 0 < size) (cursor : Cursor) :
    ∃ count, cursor.ExhaustsChunks pattern kind size count := by
  -- The induction follows the matches.
  fun_induction passAll cursor pattern with
  | case1 cursor stuck =>
    have lacking : ¬ (size ≤ cursor.rest.length ∧ kind (cursor.rest.take size)) := by
      -- A chunk of the kind would be a match.
      intro first
      rw [length_rest] at first
      rw [(matched cursor _).mpr ⟨first, rfl⟩] at stuck
      contradiction
    refine ⟨0, Bytes.isGreatest_zero lacking, ?_, ?_, ?_⟩ <;> rw [Nat.zero_mul, skip_zero]
    · exact Repeats.still cursor
    · exact stuck
    · exact passAll_stop stuck
  | case2 cursor next accepted fewer ih =>
    -- The match takes up one chunk, and the others stand behind it.
    obtain ⟨⟨whole, first⟩, rfl⟩ := (matched cursor next).mp accepted
    obtain ⟨count, greatest, repeats, stops, ends⟩ := ih
    rw [skip_skip, Nat.add_comm, ← Nat.succ_mul] at repeats stops ends
    rw [rest_skip] at greatest
    have longer : size ≤ cursor.rest.length := by rwa [length_rest]
    refine ⟨count + 1, Bytes.isGreatest_succ longer first greatest,
      Repeats.step accepted repeats, stops, ?_⟩
    rw [passAll_step accepted, if_pos fewer, ends]
  | case3 cursor next accepted stays =>
    -- A match of a chunk always leaves fewer bytes.
    obtain ⟨⟨whole, first⟩, rfl⟩ := (matched cursor next).mp accepted
    rw [remaining_skip] at stays
    omega

/-- Accepting matches as often as possible passes all the chunks, and succeeds if there are any. -/
theorem ExhaustsChunks.run_eq {cursor : Cursor} {pattern : Pattern} {kind : Bytes → Prop}
    {size count : Nat} (filled : 0 < size)
    (exhausts : cursor.ExhaustsChunks pattern kind size count) :
    (Script.Move.acceptMany pattern).run cursor =
      ⟨.ofAnswer (.flag (decide (1 ≤ count))), cursor.skip (count * size)⟩ := by
  -- Chunks that hold something lead on if there are any.
  have further : 0 < count * size ↔ 1 ≤ count := by
    rw [Nat.mul_pos_iff_of_pos_right filled, Nat.succ_le_iff]
  rw [Script.Move.run, acceptMany?, exhausts.passAll_eq, ofStep_progress?_skip]
  simp only [further]

/-- What is matched by chunks is passed as often as these stand in a row. -/
theorem exists_run_acceptMany_eq {pattern : Pattern} {kind : Bytes → Prop} {size : Nat}
    (matched : MatchesChunks pattern kind size) (filled : 0 < size) (cursor : Cursor) :
    ∃ count, cursor.ExhaustsChunks pattern kind size count ∧
      (Script.Move.acceptMany pattern).run cursor =
        ⟨.ofAnswer (.flag (decide (1 ≤ count))), cursor.skip (count * size)⟩ := by
  -- The move ends where its loop ends.
  obtain ⟨count, exhausts⟩ := exists_exhaustsChunks matched filled cursor
  exact ⟨count, exhausts, exhausts.run_eq filled⟩

/-- Accepting a text with nothing in it as often as possible fails, and moves nothing. -/
theorem run_acceptMany_of_isEmpty {pattern : Pattern} (empty : pattern.isEmpty = true)
    (cursor : Cursor) :
    (Script.Move.acceptMany pattern).run cursor = ⟨.ofAnswer (.flag false), cursor⟩ := by
  -- The loop ends where it begins, which is behind no bytes.
  have still := ofStep_progress?_skip cursor 0
  rw [skip_zero] at still
  rw [Script.Move.run, acceptMany?, passAll_of_isEmpty empty, still]
  rfl

/--
Accepting a text as often as possible passes the largest number of its chunks that match in a row.

It ends where there is no further match, also where what is left is too short, and it succeeds if
it has passed any. A text with nothing in it is not passed at all.
-/
theorem run_acceptMany_chunks :
    (∀ text ≠ "", ∀ cursor : Cursor,
      (∃ count, cursor.ExhaustsChunks (.exactly text) (· = Utf8.encode text)
          (Utf8.encode text).length count ∧
        (Script.Move.acceptMany (.exactly text)).run cursor =
          ⟨.ofAnswer (.flag (decide (1 ≤ count))),
            cursor.skip (count * (Utf8.encode text).length)⟩) ∧
      ∃ count, cursor.ExhaustsChunks (.anyCase text)
          (fun chunk => Text.equalAnyCase chunk (Utf8.encode text) = true)
          (Utf8.encode text).length count ∧
        (Script.Move.acceptMany (.anyCase text)).run cursor =
          ⟨.ofAnswer (.flag (decide (1 ≤ count))),
            cursor.skip (count * (Utf8.encode text).length)⟩) ∧
      ∀ cursor : Cursor,
        (Script.Move.acceptMany (.exactly "")).run cursor = ⟨.ofAnswer (.flag false), cursor⟩ ∧
        (Script.Move.acceptMany (.anyCase "")).run cursor = ⟨.ofAnswer (.flag false), cursor⟩ := by
  -- Both ways of matching are by chunks of the size of the text, which are empty if the text is.
  refine ⟨?_, ?_⟩
  · intro text filled cursor
    have positive := Utf8.length_encode_pos_iff.mpr filled
    exact ⟨exists_run_acceptMany_eq (matchesChunks_exactly text) positive cursor,
      exists_run_acceptMany_eq (matchesChunks_anyCase text) positive cursor⟩
  · intro cursor
    exact ⟨run_acceptMany_of_isEmpty rfl cursor, run_acceptMany_of_isEmpty rfl cursor⟩

/-- Of two chunks that match in any case, one matches exactly, and half of a third is left. -/
theorem run_acceptMany_chunks_twice :
    "ab" ≠ "" ∧
      (Script.Move.acceptMany (.exactly "ab")).run (ofText "abABa") =
        ⟨.ofAnswer (.flag true), (ofText "abABa").skip 2⟩ ∧
      (Script.Move.acceptMany (.anyCase "ab")).run (ofText "abABa") =
        ⟨.ofAnswer (.flag true), (ofText "abABa").skip 4⟩ := by
  have filled : "ab" ≠ "" := by decide
  obtain ⟨⟨count, exhausts, runs⟩, other, alsoExhausts, alsoRuns⟩ :=
    run_acceptMany_chunks.1 "ab" filled (ofText "abABa")
  have one : IsGreatest {count | Chunks (· = Utf8.encode "ab") (Utf8.encode "ab").length
      (ofText "abABa").rest count} 1 :=
    Bytes.isGreatest_succ (by decide +kernel) (by decide +kernel)
      (Bytes.isGreatest_zero (by decide +kernel))
  have two : IsGreatest {count | Chunks
      (fun chunk => Text.equalAnyCase chunk (Utf8.encode "ab") = true) (Utf8.encode "ab").length
      (ofText "abABa").rest count} 2 :=
    Bytes.isGreatest_succ (by decide +kernel) (by decide +kernel)
      (Bytes.isGreatest_succ (by decide +kernel) (by decide +kernel)
        (Bytes.isGreatest_zero (by decide +kernel)))
  -- The counts are those of the chunks in a row, and there is no other such count.
  rw [exhausts.greatest.unique one] at runs
  rw [alsoExhausts.greatest.unique two] at alsoRuns
  exact ⟨filled, runs, alsoRuns⟩

end Cursor

end RuneScan
