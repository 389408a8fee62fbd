import RuneScan.Proofs.Cursor.Walk
import RuneScan.Proofs.Utf8.Boundary
import RuneScan.Script.Move

/-! Searching the raw bytes leads to where a walk over the runes would stop. -/

namespace RuneScan

open Bytes (BeginsWithAny FirstPlace)

namespace Cursor

/-- A walk up to a text stops where the text first occurs in the bytes. -/
theorem walk_exactly_eq {cursor : Cursor} {text : String} {count : Nat}
    (first : FirstPlace (Utf8.encode text <+: ·) cursor.rest count) :
    cursor.walk (·.sees (.exactly text)) = ⟨decide (0 < count), cursor.skip count⟩ := by
  -- The walk looks for the text at rune after rune, and it occurs nowhere in between.
  have agrees : ∀ place : Cursor, place.rest ≠ [] →
      (place.sees (.exactly text) = true ↔ Utf8.encode text <+: place.rest) := by
    intro place _
    rw [sees, List.isPrefixOf_iff_prefix]
  have walked := walkUntil_eq_of_firstPlace agrees
    (fun _ _ within occurs => Utf8.encode_prefix_of_inside within occurs) first false
  rwa [Bool.false_or] at walked

/-- An ASCII set is seen exactly where one of its bytes comes next. -/
theorem sees_oneOf_iff_beginsWithAny {cursor : Cursor} {set : String}
    (ascii : Bytes.isAscii (Utf8.encode set) = true) :
    cursor.sees (.oneOf set) = true ↔ BeginsWithAny (Utf8.encode set) cursor.rest := by
  rw [sees, Bool.and_eq_true, Bool.not_eq_true', atEnd_eq_false_iff, List.contains_iff_mem, rune,
    reading]
  cases cursor.rest with
  | nil => simp [BeginsWithAny]
  | cons byte after =>
    -- What is read belongs to the set exactly if the first byte does.
    rw [Utf8.read_rune_mem_iff ascii]
    simp [BeginsWithAny]

/-- A walk up to one of several ASCII runes stops where one of their bytes first stands. -/
theorem walk_oneOf_eq {cursor : Cursor} {set : String} {count : Nat}
    (ascii : Bytes.isAscii (Utf8.encode set) = true)
    (first : FirstPlace (BeginsWithAny (Utf8.encode set)) cursor.rest count) :
    cursor.walk (·.sees (.oneOf set)) = ⟨decide (0 < count), cursor.skip count⟩ := by
  -- Each rune of the walk is decided by its first byte.
  have walked := walkUntil_eq_of_firstPlace (fun _ _ => sees_oneOf_iff_beginsWithAny ascii)
    (fun _ _ within begins => Utf8.beginsWithAny_of_inside ascii within begins) first false
  rwa [Bool.false_or] at walked

/-- A rune is declined if something is left and the answer about it is no. -/
theorem declineBy?_eq_some_iff {cursor next : Cursor} {query : Query} {asked : List Char} :
    (cursor.declineBy? query asked).result = some next ↔
      query asked cursor.rune = false ∧ cursor.next? = some next := by
  -- Nothing is asked at the end, where nothing is stepped over either.
  rw [declineBy?, seesBy, next?_eq]
  cases cursor.atEnd <;> simp

/-- No rune is declined at the end, nor where the answer is yes. -/
theorem declineBy?_eq_none_iff {cursor : Cursor} {query : Query} {asked : List Char} :
    (cursor.declineBy? query asked).result = none ↔
      cursor.atEnd = true ∨ query asked cursor.rune = true := by
  -- Everywhere else there is a rune to step over.
  rw [declineBy?, seesBy, next?_eq]
  cases cursor.atEnd <;> simp

/-- Passing runes ends where none is declined, behind the question that was asked there. -/
theorem passUntil_stop {cursor : Cursor} {query : Query} {asked : List Char}
    (stuck : (cursor.declineBy? query asked).result = none) :
    cursor.passUntil query asked = ⟨cursor, (cursor.declineBy? query asked).asked⟩ := by
  -- The loop is left before anything is passed.
  rw [passUntil]
  split
  · rfl
  · rename_i next declined
    rw [stuck] at declined
    contradiction

/-- Passing runes goes on behind each one that is declined. -/
theorem passUntil_step {cursor next : Cursor} {query : Query} {asked : List Char}
    (declined : (cursor.declineBy? query asked).result = some next) :
    let runes := (cursor.declineBy? query asked).asked
    cursor.passUntil query asked = ⟨(next.passUntil query (runes ++ asked)).result,
      runes ++ (next.passUntil query (runes ++ asked)).asked⟩ := by
  -- What was asked here comes before all that is asked later.
  rw [passUntil]
  split
  · rename_i stuck
    rw [declined] at stuck
    contradiction
  · rename_i other again
    rw [declined, Option.some.injEq] at again
    rw [again]

/-- Asking about the runes one at a time is walking up to the first with the answer yes. -/
theorem passUntil_ofPred {holds : Char → Bool} {stops : Cursor → Bool}
    (agrees : ∀ place : Cursor, place.atEnd = false → stops place = holds place.rune)
    (cursor : Cursor) (asked : List Char) (moved : Bool) :
    (cursor.passUntil (.ofPred holds) asked).result = (cursor.walkUntil stops moved).reached := by
  -- Both step over the same runes, for which the answers do not depend on earlier ones.
  induction cursor, asked using passUntil.induct (.ofPred holds) generalizing moved with
  | case1 cursor asked stuck =>
    have stopped : cursor.atEnd = true ∨ stops cursor = true := by
      rcases declineBy?_eq_none_iff.mp stuck with ended | yes
      · exact Or.inl ended
      · cases ended : cursor.atEnd with
        | true => exact Or.inl rfl
        | false => exact Or.inr ((agrees cursor ended).trans yes)
    rw [passUntil_stop stuck, walkUntil_stop moved stopped]
  | case2 cursor asked runes next declined ih =>
    obtain ⟨no, stepped⟩ := declineBy?_eq_some_iff.mp declined
    obtain ⟨filled, rfl⟩ := next?_eq_some_iff.mp stepped
    have more := atEnd_eq_false_iff.mpr filled
    rw [passUntil_step declined, walkUntil_step moved more ((agrees cursor more).trans no)]
    exact ih true

/-- A text is searched for with the outcome of the walk up to it. -/
theorem skipToText?_eq (cursor : Cursor) (text : String) :
    cursor.skipToText? text = cursor.progress? (cursor.walk (·.sees (.exactly text))).reached := by
  -- Both come to the first occurrence in the bytes.
  have first := Bytes.firstPlace_occurrence? (Utf8.encode text) cursor.rest
  rw [walk_exactly_eq first, skipToText?, jumpTo?, length_rest]

/-- Any search that finds the first occurrence of a text leads to the same place. -/
theorem skipToText?_eq_jumpTo? {text : String} {search : Bytes → Option Nat}
    (leftmost : Bytes.IsLeftmost (Utf8.encode text <+: ·) search) (cursor : Cursor) :
    cursor.skipToText? text = cursor.jumpTo? (search cursor.rest) := by
  -- There is no other search with this law.
  rw [leftmost.unique (Bytes.isLeftmost_occurrence? _), skipToText?]

/-- Asking about each rune comes to the outcome of the walk up to one of them. -/
theorem skipUntilBy?_oneOf_eq (cursor : Cursor) (set : String) :
    (cursor.skipUntilBy? (.ofPred fun rune => set.toList.contains rune)).result =
      cursor.progress? (cursor.walk (·.sees (.oneOf set))).reached := by
  -- Where something is left, the set is seen exactly if the rune is one of its own.
  have agrees : ∀ place : Cursor, place.atEnd = false →
      place.sees (.oneOf set) = set.toList.contains place.rune := by
    intro place more
    rw [sees, more, Bool.not_false, Bool.true_and]
  rw [skipUntilBy?, passUntil_ofPred agrees cursor [] false, walk]

/-- A set is searched for with the outcome of the walk up to one of its runes. -/
theorem skipToOneOf?_eq (cursor : Cursor) (set : String) :
    cursor.skipToOneOf? set = cursor.progress? (cursor.walk (·.sees (.oneOf set))).reached := by
  -- The search over the bytes is taken for ASCII sets only, where it finds the same place.
  rw [skipToOneOf?]
  by_cases few : (Bytes.isAscii (Utf8.encode set) && 1 ≤ (Utf8.encode set).length &&
      (Utf8.encode set).length ≤ 3) = true
  · rw [if_pos few]
    have ascii : Bytes.isAscii (Utf8.encode set) = true := by
      simp only [Bool.and_eq_true] at few
      exact few.1.1
    have first := Bytes.firstPlace_anyOf? (Utf8.encode set) cursor.rest
    rw [walk_oneOf_eq ascii first, jumpTo?, length_rest]
  · rw [if_neg few, skipUntilBy?_oneOf_eq]

/-- Any search that finds the first of some ASCII bytes leads to the same place. -/
theorem skipToOneOf?_eq_jumpTo? {set : String} {search : Bytes → Option Nat}
    (ascii : Bytes.isAscii (Utf8.encode set) = true)
    (leftmost : Bytes.IsLeftmost (BeginsWithAny (Utf8.encode set)) search) (cursor : Cursor) :
    cursor.skipToOneOf? set = cursor.jumpTo? (search cursor.rest) := by
  -- The walk ends there, however many bytes are wanted.
  rw [skipToOneOf?_eq, walk_oneOf_eq ascii (leftmost.firstPlace cursor.rest), jumpTo?, length_rest]

/-- What a walk answers as a move, and where it leads. -/
def Walk.arrival (walk : Walk) : Script.Arrival :=
  -- The answer is whether any step was made.
  ⟨.ofAnswer (.flag walk.moved), walk.reached⟩

/-- A step that skips bytes succeeds as a move if these are any. -/
theorem ofStep_progress?_skip (cursor : Cursor) (count : Nat) :
    Script.Arrival.ofStep cursor (cursor.progress? (cursor.skip count)) =
      ⟨.ofAnswer (.flag (decide (0 < count))), cursor.skip count⟩ := by
  -- Where it fails, it has skipped nothing.
  rw [Script.Arrival.ofStep, isSome_progress?_skip, getD_progress?_skip]

/-- A walk leads on if it makes any step. -/
theorem ofStep_progress?_walk (cursor : Cursor) (stops : Cursor → Bool) :
    Script.Arrival.ofStep cursor (cursor.progress? (cursor.walk stops).reached) =
      (cursor.walk stops).arrival := by
  -- It skips bytes, and it has moved exactly if these are any.
  obtain ⟨count, walked⟩ := exists_walkUntil_eq_skip stops cursor false
  rw [Bool.false_or] at walked
  rw [walk, walked, ofStep_progress?_skip, Walk.arrival]

end Cursor

namespace Script

/--
Skipping to a text is walking over runes until the text is seen.

The walk stops at the first place where the bytes of the text occur, or else at the end.
-/
theorem run_skipToText_eq_walk (cursor : Cursor) (text : String) :
    (Move.skipToText text).run cursor = (cursor.walk (·.sees (.exactly text))).arrival ∧
      ∃ place, (cursor.walk (·.sees (.exactly text))).reached = cursor.skip place ∧
        FirstPlace (Utf8.encode text <+: ·) cursor.rest place := by
  -- The byte search finds the first occurrence, and the walk cannot step over it.
  have first := Bytes.firstPlace_occurrence? (Utf8.encode text) cursor.rest
  refine ⟨?_, _, ?_, first⟩
  · rw [Move.run, Cursor.skipToText?_eq, Cursor.ofStep_progress?_walk]
  · rw [Cursor.walk_exactly_eq first]

/--
Skipping to a rune of a set is walking over runes until one of the set is seen.

It makes no difference whether bytes are searched or runes are asked about, nor how the set is
written down.
-/
theorem run_skipToOneOf_eq_walk (cursor : Cursor) (set : String) :
    (Move.skipToOneOf set).run cursor = (cursor.walk (·.sees (.oneOf set))).arrival ∧
      cursor.skipToOneOf? set =
        (cursor.skipUntilBy? (.ofPred fun rune => set.toList.contains rune)).result ∧
      ∀ other : String, (∀ rune, rune ∈ other.toList ↔ rune ∈ set.toList) →
        (Move.skipToOneOf other).run cursor = (Move.skipToOneOf set).run cursor := by
  -- The walk depends on a set only through the runes that it holds.
  refine ⟨?_, ?_, ?_⟩
  · rw [Move.run, Cursor.skipToOneOf?_eq, Cursor.ofStep_progress?_walk]
  · rw [Cursor.skipToOneOf?_eq, Cursor.skipUntilBy?_oneOf_eq]
  · intro other same
    have seen : (fun place : Cursor => place.sees (.oneOf other)) =
        fun place => place.sees (.oneOf set) := by
      funext place
      have contained : other.toList.contains place.rune = set.toList.contains place.rune := by
        rw [Bool.eq_iff_iff, List.contains_iff_mem, List.contains_iff_mem, same]
      rw [Cursor.sees, Cursor.sees, contained]
    rw [Move.run, Move.run, Cursor.skipToOneOf?_eq, Cursor.skipToOneOf?_eq, seen]

/-- Four letters are asked about and two are searched for, which comes to the same. -/
theorem run_skipToOneOf_repeated :
    (∀ rune, rune ∈ "abab".toList ↔ rune ∈ "ba".toList) ∧
      (Move.skipToOneOf "abab").run (Cursor.ofBytes [0xE4, 0xB8, 0x61]) =
        (Move.skipToOneOf "ba").run (Cursor.ofBytes [0xE4, 0xB8, 0x61]) := by
  -- Both texts hold the same two letters.
  have same : ∀ rune, rune ∈ "abab".toList ↔ rune ∈ "ba".toList := by
    intro rune
    show rune ∈ ['a', 'b', 'a', 'b'] ↔ rune ∈ ['b', 'a']
    simp only [List.mem_cons, List.not_mem_nil, or_false]
    grind
  exact ⟨same, (run_skipToOneOf_eq_walk _ "ba").2.2 "abab" same⟩

end Script

end RuneScan
