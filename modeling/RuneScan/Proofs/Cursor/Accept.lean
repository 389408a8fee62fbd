import RuneScan.Cursor.Mismatch
import RuneScan.Proofs.Cursor.Stepping
import RuneScan.Proofs.Text.AnyCase

/-! What is seen is accepted, and what is accepted meets a demand for it. -/

namespace RuneScan.Cursor

/-- Bytes can be passed exactly where as many remain. -/
theorem isSome_advance? (cursor : Cursor) (count : Nat) :
    (cursor.advance? count).isSome = decide (count ≤ cursor.remaining) := by
  -- Only a lack of bytes stands in the way.
  rw [advance?]
  by_cases lacking : cursor.remaining < count
  · rw [if_pos lacking, decide_eq_false (by omega)]
    rfl
  · rw [if_neg lacking, decide_eq_true (by omega)]
    rfl

/-- The step over a rune succeeds exactly where something is left. -/
theorem isSome_next? (cursor : Cursor) : cursor.next?.isSome = !cursor.atEnd := by
  -- At the end there is no rune to step over.
  rw [next?_eq]
  cases cursor.atEnd <;> rfl

/-- A demand is met exactly by a step that leads on. -/
theorem isOk_demand (cursor : Cursor) (expected : String) (stepped : Option Cursor) :
    (cursor.demand expected stepped).isOk = stepped.isSome := by
  -- The report takes the place of a step that leads nowhere.
  cases stepped <;> rfl

private theorem isOk_map {α β : Type} (change : α → β) (outcome : Except Mismatch α) :
    (outcome.map change).isOk = outcome.isOk := by
  -- A report is passed on as it is.
  cases outcome <;> rfl

/-- A text that is seen fits into the bytes that remain. -/
theorem length_le_of_sees_exactly {cursor : Cursor} {text : String}
    (seen : cursor.sees (.exactly text) = true) : (Utf8.encode text).length ≤ cursor.remaining := by
  -- The bytes of the text begin the rest.
  rw [sees, List.isPrefixOf_iff_prefix] at seen
  rw [← length_rest]
  exact seen.length_le

/-- A text is accepted exactly where it is seen. -/
theorem sees_exactly_eq (cursor : Cursor) (text : String) :
    cursor.sees (.exactly text) = (cursor.accept? (.exactly text)).isSome := by
  -- The step over a text that is seen has the bytes that it needs.
  rw [accept?]
  cases seen : cursor.sees (.exactly text) with
  | false => rfl
  | true =>
    rw [if_pos rfl, stepOver?, isSome_advance?,
      decide_eq_true (length_le_of_sees_exactly seen)]

/-- A rune of a set is accepted exactly where it is seen. -/
theorem sees_oneOf_eq (cursor : Cursor) (set : String) :
    cursor.sees (.oneOf set) = (cursor.accept? (.oneOf set)).isSome := by
  -- No rune is seen at the end, and elsewhere there is one to step over.
  rw [accept?]
  cases seen : cursor.sees (.oneOf set) with
  | false => rfl
  | true =>
    rw [sees, Bool.and_eq_true] at seen
    rw [if_pos rfl, stepOver?, isSome_next?, seen.1]

/-- A rune is accepted exactly where the answer to a query is yes. -/
theorem seesBy_result_eq (cursor : Cursor) (query : Query) (asked : List Char) :
    (cursor.seesBy query asked).result = (cursor.acceptBy? query asked).result.isSome := by
  -- Nothing is asked at the end, and elsewhere there is a rune to step over.
  rw [acceptBy?, seesBy]
  cases ended : cursor.atEnd with
  | true => rfl
  | false =>
    cases query asked cursor.rune with
    | false => simp
    | true => simp [isSome_next?, ended]

private theorem sees_anyCase_of_short {cursor : Cursor} {text : String}
    (short : cursor.remaining < (Utf8.encode text).length) :
    cursor.sees (.anyCase text) = true ↔ Text.PairUp cursor.rest (Utf8.encode text) := by
  -- What is compared with the text is all of the rest.
  have whole : cursor.rest.take (Utf8.encode text).length = cursor.rest := by
    apply List.take_of_length_le
    rw [length_rest]
    omega
  rw [sees, peek, whole, Text.equalAnyCase_iff]

/-- A text in any case is accepted where it is seen and as many bytes as its own remain. -/
theorem isSome_accept?_anyCase (cursor : Cursor) (text : String) :
    (cursor.accept? (.anyCase text)).isSome =
      (cursor.sees (.anyCase text) && decide ((Utf8.encode text).length ≤ cursor.remaining)) := by
  -- The step is by the bytes of the text, whatever stands in their place.
  rw [accept?]
  cases cursor.sees (.anyCase text) with
  | false => rfl
  | true => rw [if_pos rfl, stepOver?, isSome_advance?, Bool.true_and]

/-- A text in any case that is seen is accepted, unless the rest is short and pairs up with it. -/
theorem sees_anyCase_eq_iff (cursor : Cursor) (text : String) :
    cursor.sees (.anyCase text) = (cursor.accept? (.anyCase text)).isSome ↔
      ¬ (cursor.remaining < (Utf8.encode text).length ∧
        Text.PairUp cursor.rest (Utf8.encode text)) := by
  -- Only the lack of bytes can keep what is seen from being accepted.
  rw [isSome_accept?_anyCase]
  by_cases short : cursor.remaining < (Utf8.encode text).length
  · rw [decide_eq_false (by omega), Bool.and_false, ← sees_anyCase_of_short short]
    simp [short]
  · rw [decide_eq_true (by omega), Bool.and_true]
    simp [short]

/--
Looking, accepting and demanding agree, but for a text in any case behind which too little is left.

Such a text is seen, but not accepted, exactly where it has more bytes than remain and the runes of
the whole rest still pair up with its own as the same letters.
-/
theorem sees_accept_require_agree (cursor : Cursor) :
    (∀ text, cursor.sees (.exactly text) = (cursor.accept? (.exactly text)).isSome ∧
      (cursor.accept? (.exactly text)).isSome = (cursor.require (.exactly text)).isOk ∧
      (cursor.sees (.exactly text) = true → (Utf8.encode text).length ≤ cursor.remaining)) ∧
    (∀ set, cursor.sees (.oneOf set) = (cursor.accept? (.oneOf set)).isSome ∧
      (cursor.accept? (.oneOf set)).isSome = (cursor.requireOneOf set).isOk) ∧
    (∀ query expected,
      (cursor.seesBy query []).result = (cursor.acceptBy? query []).result.isSome ∧
      (cursor.acceptBy? query []).result.isSome = (cursor.requireBy query expected).result.isOk) ∧
    ∀ text, (cursor.accept? (.anyCase text)).isSome = (cursor.require (.anyCase text)).isOk ∧
      (cursor.sees (.anyCase text) = (cursor.accept? (.anyCase text)).isSome ↔
        ¬ (cursor.remaining < (Utf8.encode text).length ∧
          Text.PairUp cursor.rest (Utf8.encode text))) := by
  -- A demand is met by the step that accepts, so all that is left is what keeps that step back.
  refine ⟨?_, ?_, ?_, ?_⟩
  · intro text
    exact ⟨sees_exactly_eq cursor text, (isOk_demand ..).symm, length_le_of_sees_exactly⟩
  · intro set
    refine ⟨sees_oneOf_eq cursor set, ?_⟩
    rw [requireOneOf, isOk_map, require, isOk_demand]
  · intro query expected
    refine ⟨seesBy_result_eq cursor query [], ?_⟩
    rw [requireBy, isOk_map, isOk_demand]
  · intro text
    exact ⟨(isOk_demand ..).symm, sees_anyCase_eq_iff cursor text⟩

/-- The sign for kelvin is seen at a single k, which is too short for it to be accepted. -/
theorem agree_at_kelvin :
    (Cursor.ofText "k").sees (.exactly "k") = true ∧
      (Utf8.encode "k").length ≤ (Cursor.ofText "k").remaining ∧
      (Cursor.ofText "k").sees (.anyCase "\u212A") ≠
        ((Cursor.ofText "k").accept? (.anyCase "\u212A")).isSome := by
  -- One byte remains, the sign has three, and both are the same letter.
  have agree := sees_accept_require_agree (Cursor.ofText "k")
  have seen : (Cursor.ofText "k").sees (.exactly "k") = true := by decide +kernel
  refine ⟨seen, (agree.1 "k").2.2 seen, ?_⟩
  intro same
  refine (agree.2.2.2 "\u212A").2.mp same ⟨by decide +kernel, ?_⟩
  rw [rest_ofText, Text.pairUp_encode_iff]
  decide +kernel

/-- Not every text that is seen in any case is accepted. -/
theorem sees_anyCase_without_accept :
    ¬ ∀ (cursor : Cursor) (text : String),
      cursor.sees (.anyCase text) = (cursor.accept? (.anyCase text)).isSome := by
  -- The sign for kelvin has more bytes than the k that it is seen at.
  intro agree
  refine (sees_anyCase_eq_iff (Cursor.ofText "k") "\u212A").mp (agree _ _) ⟨by decide +kernel, ?_⟩
  rw [rest_ofText, Text.pairUp_encode_iff]
  decide +kernel

end RuneScan.Cursor
