import RuneScan.Cursor.Mismatch
import RuneScan.Proofs.Cursor.Loops
import RuneScan.Proofs.Text.AnyCase

/-! What a cursor finds and how far it steps depend on what is left, and on nothing before it. -/

namespace RuneScan

/-- Whether a pattern is a text with nothing in it, which matches everywhere. -/
def Pattern.isEmpty : Pattern → Bool
  | .exactly text => text == ""
  | .anyCase text => text == ""
  -- A set with nothing in it matches nowhere.
  | .oneOf _ => false

/-- The query with its two answers exchanged. -/
def Query.negated (query : Query) : Query := fun asked rune => !query asked rune

namespace Cursor

section Congruence

variable {first second : Cursor} (same : first.rest = second.rest)
include same

/-- Where the same is left, equally many bytes remain. -/
theorem remaining_congr : first.remaining = second.remaining := by
  -- They are the bytes of the rest.
  rw [← length_rest, same, length_rest]

/-- Where the same is left, both cursors are at the end, or none of them is. -/
theorem atEnd_congr : first.atEnd = second.atEnd := by
  -- The end is where nothing is left.
  rw [Bool.eq_iff_iff, atEnd_iff_rest, atEnd_iff_rest, same]

/-- Where the same is left, the same is read. -/
theorem reading_congr : first.reading = second.reading := by
  rw [reading, reading, same]

/-- Where the same is left, the same rune stands. -/
theorem rune_congr : first.rune = second.rune := by
  rw [rune, rune, reading_congr same]

/-- Where the same is left, the next bytes are the same. -/
theorem peek_congr (count : Nat) : first.peek count = second.peek count := by
  rw [peek, peek, same]

/-- Where the same is left, the same is met. -/
theorem encounter_congr : first.encounter = second.encounter := by
  rw [encounter, encounter, atEnd_congr same, rune_congr same]

/-- Where the same is left, the same patterns match. -/
theorem sees_congr (pattern : Pattern) : first.sees pattern = second.sees pattern := by
  -- Texts are compared with the rest, and sets with the rune there, if any.
  cases pattern with
  | exactly text => rw [sees, sees, same]
  | anyCase text => rw [sees, sees, peek_congr same]
  | oneOf set => rw [sees, sees, atEnd_congr same, rune_congr same]

/-- Where the same is left, a query is asked about the same rune. -/
theorem seesBy_congr (query : Query) (asked : List Char) :
    first.seesBy query asked = second.seesBy query asked := by
  -- Whether there is a rune to ask about, and which, is told from the rest.
  rw [seesBy, seesBy, atEnd_congr same, rune_congr same]

end Congruence

/--
Wherever the same rest is left, a step passes the same number of its bytes, or fails.

The step succeeds without passing anything only under a condition that is known beforehand.
-/
structure Strides (view : Bytes) (idle : Bool) (step : Cursor → Option Cursor)
    (stride : Option Nat) : Prop where
  /-- No more is passed than is left. -/
  within : ∀ count ∈ stride, count ≤ view.length
  /-- The condition for passing nothing. -/
  idle_iff : stride = some 0 ↔ idle = true
  /-- What the step does. -/
  step_eq : ∀ cursor : Cursor, cursor.rest = view → step cursor = stride.map cursor.skip

/-- A step that succeeds has passed bytes of the rest, and some unless it is an idle one. -/
theorem Strides.exists_skip {cursor next : Cursor} {idle : Bool}
    {step : Cursor → Option Cursor} {stride : Option Nat}
    (strides : Strides cursor.rest idle step stride) (stepped : step cursor = some next) :
    ∃ count ≤ cursor.remaining, next = cursor.skip count ∧ (count = 0 ↔ idle = true) := by
  -- The stride is the number of bytes.
  rw [strides.step_eq cursor rfl, Option.map_eq_some_iff] at stepped
  obtain ⟨count, rfl, rfl⟩ := stepped
  have within := strides.within count rfl
  rw [length_rest] at within
  refine ⟨count, within, rfl, ?_⟩
  rw [← strides.idle_iff, Option.some.injEq]

/-- A number of bytes is passed where as many are left. -/
theorem strides_advance? (view : Bytes) (count : Nat) :
    Strides view (count == 0) (·.advance? count)
      (if view.length < count then none else some count) := by
  -- An advance by no bytes is always made, and passes nothing.
  refine ⟨?_, ?_, ?_⟩
  · intro passed
    split
    · simp
    · rintro ⟨⟩
      omega
  · rw [beq_iff_eq]
    split
    · simp only [reduceCtorEq, false_iff]
      omega
    · simp
  · rintro cursor rfl
    rw [advance?, length_rest]
    split <;> rfl

/-- A rune is passed where something is left. -/
theorem strides_next? (view : Bytes) :
    Strides view false (·.next?) (if view = [] then none else some (Utf8.read view).width) := by
  -- What is read where something is left takes up bytes.
  refine ⟨?_, ?_, ?_⟩
  · intro passed
    split
    · simp
    · rintro ⟨⟩
      exact Utf8.read_width_le view
  · split
    · simp
    · rename_i filled
      simp [Utf8.read_width_eq_zero_iff, filled]
  · rintro cursor rfl
    rw [next?_eq]
    split <;> simp_all [atEnd_iff_rest, reading]

/-- A step that is made only under a condition fails elsewhere. -/
theorem Strides.guard {view : Bytes} {idle : Bool} {step : Cursor → Option Cursor}
    {stride : Option Nat} (strides : Strides view idle step stride) {holds : Cursor → Bool}
    (same : ∀ first second : Cursor, first.rest = second.rest → holds first = holds second)
    (now : idle = true → holds (ofBytes view) = true) :
    Strides view idle (fun cursor => if holds cursor then step cursor else none)
      (if holds (ofBytes view) then stride else none) := by
  -- The condition is told from what is left, and it holds wherever the step is idle.
  refine ⟨?_, ?_, ?_⟩
  · split
    · exact strides.within
    · simp
  · split
    · exact strides.idle_iff
    · rename_i fails
      simp only [reduceCtorEq, false_iff]
      exact fun idle => fails (now idle)
  · intro cursor left
    rw [same cursor (ofBytes view) (by rw [left, rest_ofBytes]), strides.step_eq cursor left]
    split <;> rfl

private theorem length_encode_beq_zero (text : String) :
    ((Utf8.encode text).length == 0) = (text == "") := by
  -- Only a text with nothing in it takes no bytes.
  rw [Bool.eq_iff_iff, beq_iff_eq, beq_iff_eq, Utf8.length_encode, String.utf8ByteSize_eq_zero_iff]

/-- A match is passed where it is seen and as many bytes are left. -/
theorem exists_strides_accept? (view : Bytes) (pattern : Pattern) :
    ∃ stride, Strides view pattern.isEmpty (·.accept? pattern) stride := by
  -- Whether the pattern is seen is told from what is left.
  have same : ∀ first second : Cursor, first.rest = second.rest →
      first.sees pattern = second.sees pattern := fun _ _ same => sees_congr same pattern
  cases pattern with
  | exactly text =>
    have strides := strides_advance? view (Utf8.encode text).length
    rw [length_encode_beq_zero] at strides
    refine ⟨_, strides.guard same ?_⟩
    -- A text with nothing in it is seen everywhere.
    intro empty
    rw [beq_iff_eq.mp empty]
    rfl
  | anyCase text =>
    have strides := strides_advance? view (Utf8.encode text).length
    rw [length_encode_beq_zero] at strides
    refine ⟨_, strides.guard same ?_⟩
    intro empty
    rw [beq_iff_eq.mp empty, sees, Text.equalAnyCase_iff]
    exact Text.PairUp.refl []
  | oneOf set =>
    exact ⟨_, (strides_next? view).guard same fun never => absurd never Bool.false_ne_true⟩

/-- A match passes bytes of the rest, and some unless it is one of a text with nothing in it. -/
theorem exists_skip_of_accept? {cursor next : Cursor} {pattern : Pattern}
    (accepted : cursor.accept? pattern = some next) :
    ∃ count ≤ cursor.remaining, next = cursor.skip count ∧
      (count = 0 ↔ pattern.isEmpty = true) := by
  -- It is one of the steps that depend on what is left alone.
  obtain ⟨_, strides⟩ := exists_strides_accept? cursor.rest pattern
  exact strides.exists_skip accepted

/-- A match with something in it leaves fewer bytes. -/
theorem accept?_remaining_lt {cursor next : Cursor} {pattern : Pattern}
    (filled : pattern.isEmpty = false) (accepted : cursor.accept? pattern = some next) :
    next.remaining < cursor.remaining := by
  -- The match passes bytes, and none beyond the end.
  obtain ⟨count, within, rfl, idle⟩ := exists_skip_of_accept? accepted
  have positive : count ≠ 0 := fun still => by simp [filled, still] at idle
  rw [remaining_skip]
  omega

/-- Matches of a text with nothing in it lead nowhere. -/
theorem passAll_of_isEmpty {pattern : Pattern} (empty : pattern.isEmpty = true)
    (cursor : Cursor) : cursor.passAll pattern = cursor := by
  -- Each match is accepted where it stands.
  have each : ∀ place next, place = cursor → place.accept? pattern = some next →
      next = cursor := by
    rintro place next rfl accepted
    obtain ⟨count, _, rfl, idle⟩ := exists_skip_of_accept? accepted
    rw [idle.mpr empty, skip_zero]
  exact passAll_keeps each rfl

/-- A rune is passed if the answer to a query about it is yes, and the query is asked as often. -/
theorem exists_strides_acceptBy? (view : Bytes) (query : Query) (asked : List Char) :
    ∃ stride runes,
      Strides view false (fun cursor => (cursor.acceptBy? query asked).result) stride ∧
      ∀ cursor : Cursor, cursor.rest = view → (cursor.acceptBy? query asked).asked = runes := by
  -- Whether the query is asked, and about which rune, is told from what is left.
  have same : ∀ first second : Cursor, first.rest = second.rest →
      first.seesBy query asked = second.seesBy query asked :=
    fun _ _ same => seesBy_congr same query asked
  refine ⟨_, ((ofBytes view).seesBy query asked).asked, (strides_next? view).guard
    (fun first second alike => congrArg Inquiry.result (same first second alike))
    (fun never => absurd never Bool.false_ne_true), ?_⟩
  intro cursor left
  rw [acceptBy?, same cursor (ofBytes view) (by rw [left, rest_ofBytes])]

/-- A loop that succeeds only where it has passed something never passes nothing. -/
theorem strides_progress? {view : Bytes} {loop : Cursor → Cursor} {count : Nat}
    (within : count ≤ view.length)
    (skips : ∀ cursor : Cursor, cursor.rest = view → loop cursor = cursor.skip count) :
    Strides view false (fun cursor => cursor.progress? (loop cursor))
      (if 0 < count then some count else none) := by
  -- A loop that ends where it began has failed.
  refine ⟨?_, ?_, ?_⟩
  · split
    · rintro passed ⟨⟩
      exact within
    · simp
  · split
    · rename_i positive
      simp only [Option.some.injEq, Bool.false_eq_true, iff_false]
      omega
    · simp
  · intro cursor left
    rw [skips cursor left, progress?_skip]
    split <;> rfl

/-- Matches of a pattern are passed, as many as there are. -/
theorem exists_passAll_eq (view : Bytes) (pattern : Pattern) :
    ∃ count ≤ view.length, ∀ cursor : Cursor, cursor.rest = view →
      cursor.passAll pattern = cursor.skip count := by
  -- The induction is on the bytes that are left, of which each match takes some.
  induction size : view.length using Nat.strongRecOn generalizing view with
  | ind bound ih =>
    obtain ⟨stride, strides⟩ := exists_strides_accept? view pattern
    cases stride with
    | none =>
      refine ⟨0, Nat.zero_le _, ?_⟩
      intro cursor left
      rw [passAll_stop (strides.step_eq cursor left), skip_zero]
    | some count =>
      have within := strides.within count rfl
      -- A match of nothing ends the loop, and any other one leaves fewer bytes.
      have step : ∀ cursor : Cursor, cursor.rest = view → cursor.passAll pattern =
          if 0 < count then (cursor.skip count).passAll pattern else cursor := by
        intro cursor left
        have fewer : (cursor.skip count).remaining < cursor.remaining ↔ 0 < count := by
          rw [remaining_skip, ← length_rest, left]
          omega
        simp only [passAll_step (strides.step_eq cursor left), fewer]
      by_cases positive : 0 < count
      · have left : (view.drop count).length = bound - count := by rw [List.length_drop, size]
        obtain ⟨more, laterWithin, later⟩ := ih _ (by omega) (view.drop count) left
        refine ⟨count + more, by omega, ?_⟩
        intro cursor left
        rw [step cursor left, if_pos positive, later _ (by rw [rest_skip, left]), skip_skip]
      · refine ⟨0, Nat.zero_le _, ?_⟩
        intro cursor left
        rw [step cursor left, if_neg positive, skip_zero]

/-- Passing runes ends at the first one with the answer no, which is asked about. -/
theorem passWhile_stop {cursor : Cursor} {query : Query} {asked : List Char}
    (stuck : (cursor.acceptBy? query asked).result = none) :
    cursor.passWhile query asked = ⟨cursor, (cursor.acceptBy? query asked).asked⟩ := by
  -- The other case of the loop is that a rune is accepted.
  rw [passWhile]
  split
  · rfl
  · rename_i next accepted
    rw [stuck] at accepted
    contradiction

/-- Passing runes goes on behind each one with the answer yes. -/
theorem passWhile_step {cursor next : Cursor} {query : Query} {asked runes : List Char}
    (accepted : (cursor.acceptBy? query asked).result = some next)
    (heard : (cursor.acceptBy? query asked).asked = runes) :
    cursor.passWhile query asked = ⟨(next.passWhile query (runes ++ asked)).result,
      runes ++ (next.passWhile query (runes ++ asked)).asked⟩ := by
  -- The first case of the loop is that no rune is accepted.
  subst heard
  rw [passWhile]
  split
  · rename_i stuck
    rw [accepted] at stuck
    contradiction
  · rename_i other again
    rw [accepted, Option.some.injEq] at again
    rw [again]

/-- The rune asked about before a step is the first of those that are left. -/
theorem asked_acceptBy? (cursor : Cursor) (query : Query) (asked : List Char) :
    (cursor.acceptBy? query asked).asked = (Utf8.runes cursor.rest).take 1 := by
  -- At the end nothing is asked, as no rune is left.
  rw [acceptBy?, seesBy]
  cases ended : cursor.atEnd with
  | true => simp [atEnd_iff_rest.mp ended]
  | false =>
    rw [Utf8.runes_of_ne_nil (atEnd_eq_false_iff.mp ended)]
    rfl

/-- Behind a rune that is passed, the other runes are left. -/
theorem runes_rest_of_next? {cursor next : Cursor} (stepped : cursor.next? = some next) :
    Utf8.runes cursor.rest = cursor.rune :: Utf8.runes next.rest :=
  (Passes.single stepped).runes_rest

/-- Where something is left, the rune there is asked about. -/
theorem asked_acceptBy?_of_next? {cursor next : Cursor} (stepped : cursor.next? = some next)
    (query : Query) (asked : List Char) :
    (cursor.acceptBy? query asked).asked = [cursor.rune] := by
  -- It is the first of the runes that are left.
  rw [asked_acceptBy?, runes_rest_of_next? stepped]
  rfl

/-- To decline a rune is to accept it for the exchanged answer. -/
theorem declineBy?_eq_acceptBy?_negated (cursor : Cursor) (query : Query) (asked : List Char) :
    cursor.declineBy? query asked = cursor.acceptBy? query.negated asked := by
  -- The end is left alone in both cases, and the rune elsewhere is asked about once.
  rw [declineBy?, acceptBy?, seesBy, seesBy, Query.negated]
  cases cursor.atEnd with
  | true => rfl
  | false => cases query asked cursor.rune <;> rfl

/-- Passing runes while the answer is no is passing them while the exchanged answer is yes. -/
theorem passUntil_eq_passWhile_negated (cursor : Cursor) (query : Query) (asked : List Char) :
    cursor.passUntil query asked = cursor.passWhile query.negated asked := by
  -- The induction follows the runes that are passed, of which each one is declined.
  induction cursor, asked using passUntil.induct query with
  | case1 cursor asked stuck =>
    have same := declineBy?_eq_acceptBy?_negated cursor query asked
    rw [passUntil_stop stuck, same]
    rw [same] at stuck
    rw [passWhile_stop stuck]
  | case2 cursor asked runes next declined ih =>
    have same := declineBy?_eq_acceptBy?_negated cursor query asked
    rw [passUntil_step declined, ih]
    rw [same] at declined
    rw [passWhile_step declined (congrArg Inquiry.asked same.symm)]

/-- Skipping up to a rune with a yes is accepting runes as long as the exchanged answer is yes. -/
theorem skipUntilBy?_eq_acceptManyBy? (cursor : Cursor) (query : Query) :
    cursor.skipUntilBy? query = cursor.acceptManyBy? query.negated := by
  -- Both tell their success from where the same loop ends.
  rw [skipUntilBy?, acceptManyBy?, passUntil_eq_passWhile_negated]

/-- Runes with the answer yes are passed, and the same runes are asked about. -/
theorem exists_passWhile_eq (view : Bytes) (query : Query) (asked : List Char) :
    ∃ count runes, count ≤ view.length ∧ ∀ cursor : Cursor, cursor.rest = view →
      cursor.passWhile query asked = ⟨cursor.skip count, runes⟩ := by
  -- The induction is on the bytes that are left, of which each rune takes some.
  induction size : view.length using Nat.strongRecOn generalizing view asked with
  | ind bound ih =>
    obtain ⟨stride, runes, strides, heard⟩ := exists_strides_acceptBy? view query asked
    cases stride with
    | none =>
      refine ⟨0, runes, Nat.zero_le _, ?_⟩
      intro cursor left
      rw [passWhile_stop (strides.step_eq cursor left), heard cursor left, skip_zero]
    | some count =>
      have within := strides.within count rfl
      -- A rune that is accepted is left behind, so the rest is shorter.
      have positive : count ≠ 0 := fun still =>
        absurd (strides.idle_iff.mp (congrArg some still)) Bool.false_ne_true
      have fewer : (view.drop count).length = bound - count := by rw [List.length_drop, size]
      obtain ⟨more, others, laterWithin, later⟩ := ih _ (by omega) _ (runes ++ asked) fewer
      refine ⟨count + more, runes ++ others, by omega, ?_⟩
      intro cursor left
      rw [passWhile_step (strides.step_eq cursor left) (heard cursor left),
        later _ (by rw [rest_skip, left]), skip_skip]

/-- Runes with the answer no are passed, and the same runes are asked about. -/
theorem exists_passUntil_eq (view : Bytes) (query : Query) (asked : List Char) :
    ∃ count runes, count ≤ view.length ∧ ∀ cursor : Cursor, cursor.rest = view →
      cursor.passUntil query asked = ⟨cursor.skip count, runes⟩ := by
  -- It is the same loop, with the answers exchanged.
  simp only [passUntil_eq_passWhile_negated]
  exact exists_passWhile_eq view query.negated asked

/-- Runes with the answer yes are passed, unless there are none, and the same ones are heard. -/
theorem exists_strides_acceptManyBy? (view : Bytes) (query : Query) :
    ∃ stride runes, Strides view false (fun cursor => (cursor.acceptManyBy? query).result) stride ∧
      ∀ cursor : Cursor, cursor.rest = view → (cursor.acceptManyBy? query).asked = runes := by
  -- The runes asked about are told from what is left, like the count of bytes.
  obtain ⟨count, runes, within, passes⟩ := exists_passWhile_eq view query []
  refine ⟨_, runes, strides_progress? within ?_, ?_⟩
  · exact fun cursor left => congrArg Inquiry.result (passes cursor left)
  · exact fun cursor left => congrArg Inquiry.asked (passes cursor left)

/-- Runes with the answer no are passed, unless there are none, and the same ones are heard. -/
theorem exists_strides_skipUntilBy? (view : Bytes) (query : Query) :
    ∃ stride runes, Strides view false (fun cursor => (cursor.skipUntilBy? query).result) stride ∧
      ∀ cursor : Cursor, cursor.rest = view → (cursor.skipUntilBy? query).asked = runes := by
  -- It is the same loop, with the answers exchanged.
  simp only [skipUntilBy?_eq_acceptManyBy?]
  exact exists_strides_acceptManyBy? view query.negated

/-- Matches of a pattern are passed, unless there are none. -/
theorem exists_strides_acceptMany? (view : Bytes) (pattern : Pattern) :
    ∃ stride, Strides view false (·.acceptMany? pattern) stride := by
  -- The loop over matches passes a number of bytes that is told from the rest.
  obtain ⟨count, within, skips⟩ := exists_passAll_eq view pattern
  exact ⟨_, strides_progress? within skips⟩

/-- What comes before a place that a search finds is passed, unless the place is the first. -/
theorem strides_jumpTo? {view : Bytes} {search : Bytes → Option Nat} {holds : Bytes → Prop}
    (first : Bytes.FirstPlace holds view ((search view).getD view.length)) :
    ∃ stride, Strides view false (fun cursor => cursor.jumpTo? (search cursor.rest)) stride := by
  -- The search is within what is left.
  refine ⟨_, strides_progress? first.within ?_⟩
  rintro cursor rfl
  rw [length_rest]

/-- What comes before a text is passed, unless it stands at the cursor. -/
theorem exists_strides_skipToText? (view : Bytes) (text : String) :
    ∃ stride, Strides view false (·.skipToText? text) stride :=
  strides_jumpTo? (Bytes.firstPlace_occurrence? (Utf8.encode text) view)

/-- What comes before a rune of a set is passed, unless it stands at the cursor. -/
theorem exists_strides_skipToOneOf? (view : Bytes) (set : String) :
    ∃ stride, Strides view false (·.skipToOneOf? set) stride := by
  -- Either way of searching passes what comes before the place that it finds.
  by_cases few : (Bytes.isAscii (Utf8.encode set) && 1 ≤ (Utf8.encode set).length &&
      (Utf8.encode set).length ≤ 3) = true
  · obtain ⟨stride, strides⟩ := strides_jumpTo? (Bytes.firstPlace_anyOf? (Utf8.encode set) view)
    refine ⟨stride, strides.within, strides.idle_iff, ?_⟩
    intro cursor left
    rw [← strides.step_eq cursor left, skipToOneOf?, if_pos few]
  · obtain ⟨stride, _, strides, _⟩ :=
      exists_strides_skipUntilBy? view (.ofPred fun rune => set.toList.contains rune)
    refine ⟨stride, strides.within, strides.idle_iff, ?_⟩
    intro cursor left
    rw [← strides.step_eq cursor left, skipToOneOf?, if_neg few]

end Cursor

end RuneScan
