import RuneScan.Bytes.Basic

/-! Both searches find the first place at which what they look for is left, as any such search. -/

namespace RuneScan.Bytes

/-- The first place from which on bytes have a property, or their end if there is none. -/
structure FirstPlace (holds : Bytes → Prop) (bytes : Bytes) (place : Nat) : Prop where
  /-- The place is not beyond the end. -/
  within : place ≤ bytes.length
  /-- What is left there has the property, unless nothing has it. -/
  reached : holds (bytes.drop place) ∨ place = bytes.length
  /-- At no earlier place does what is left have the property. -/
  before : ∀ earlier < place, ¬ holds (bytes.drop earlier)

/-- Leaving out bytes before the first place brings it nearer by as much. -/
theorem FirstPlace.drop {holds : Bytes → Prop} {bytes : Bytes} {place count : Nat}
    (first : FirstPlace holds bytes place) (before : count ≤ place) :
    FirstPlace holds (bytes.drop count) (place - count) := by
  -- Each place of what is left is a later place of the whole.
  have within := first.within
  refine ⟨?_, ?_, ?_⟩
  · rw [List.length_drop]
    omega
  · rw [List.drop_drop, List.length_drop, Nat.add_sub_cancel' before]
    rcases first.reached with found | ended
    · exact Or.inl found
    · exact Or.inr (by omega)
  · intro earlier nearer
    rw [List.drop_drop]
    exact first.before (count + earlier) (by omega)

/--
A search gives a place exactly if it is the first from which on bytes have a property.

The end is among the places, so an empty needle is found even where there are no bytes.
-/
def IsLeftmost (holds : Bytes → Prop) (search : Bytes → Option Nat) : Prop :=
  -- Where no place is given, no place has what is looked for.
  ∀ bytes place, search bytes = some place ↔
    place ≤ bytes.length ∧ holds (bytes.drop place) ∧
      ∀ earlier < place, ¬ holds (bytes.drop earlier)

namespace IsLeftmost

variable {holds : Bytes → Prop} {search other : Bytes → Option Nat}

/-- The law leaves no choice of what a search gives. -/
theorem unique (leftmost : IsLeftmost holds search) (another : IsLeftmost holds other) :
    search = other := by
  -- They give the same places, and nothing where there are none.
  funext bytes
  exact Option.ext fun place => (leftmost bytes place).trans (another bytes place).symm

/-- A search with the law finds the first place, or else the end. -/
theorem firstPlace (leftmost : IsLeftmost holds search) (bytes : Bytes) :
    FirstPlace holds bytes ((search bytes).getD bytes.length) := by
  cases found : search bytes with
  | some place =>
    obtain ⟨within, now, before⟩ := (leftmost bytes place).mp found
    exact ⟨within, Or.inl now, before⟩
  | none =>
    refine ⟨Nat.le_refl _, Or.inr rfl, ?_⟩
    -- The first of several places would have been given.
    intro earlier order now
    induction earlier using Nat.strongRecOn with
    | ind earlier ih =>
      have given := (leftmost bytes earlier).mpr
        ⟨Nat.le_of_lt order, now, fun sooner less again => ih sooner less (by omega) again⟩
      rw [found] at given
      contradiction

/-- A search that tries one place after another, with the end as the last one, has the law. -/
theorem of_turns (nothing : ∀ place, search [] = some place ↔ place = 0 ∧ holds [])
    (here : ∀ {byte rest}, holds (byte :: rest) → search (byte :: rest) = some 0)
    (further : ∀ {byte rest}, ¬ holds (byte :: rest) →
      search (byte :: rest) = (search rest).map (· + 1)) : IsLeftmost holds search := by
  intro bytes
  -- The induction is on the bytes, at the front of which the search is tried first.
  induction bytes with
  | nil =>
    intro place
    rw [nothing, List.length_nil, Nat.le_zero, List.drop_nil]
    constructor
    · rintro ⟨rfl, now⟩
      exact ⟨rfl, now, fun _ before => absurd before (Nat.not_lt_zero _)⟩
    · rintro ⟨rfl, now, _⟩
      exact ⟨rfl, now⟩
  | cons byte rest ih =>
    intro place
    by_cases now : holds (byte :: rest)
    · rw [here now, Option.some.injEq]
      constructor
      · rintro rfl
        exact ⟨Nat.zero_le _, now, fun _ before => absurd before (Nat.not_lt_zero _)⟩
      · rintro ⟨_, _, before⟩
        refine Decidable.byContradiction fun later => ?_
        exact before 0 (Nat.pos_of_ne_zero (Ne.symm later)) now
    · rw [further now, Option.map_eq_some_iff]
      cases place with
      | zero => simp [now]
      | succ place =>
        -- Every place but the front is a place of the rest.
        simp only [Nat.add_right_cancel_iff, exists_eq_right, ih place, List.length_cons,
          Nat.add_le_add_iff_right, List.drop_succ_cons, Nat.forall_lt_succ_left, List.drop_zero,
          now, not_false_eq_true, true_and]

end IsLeftmost

/-- The search for a needle has the law of the first place where it occurs. -/
theorem isLeftmost_occurrence? (needle : Bytes) :
    IsLeftmost (needle <+: ·) (occurrence? needle) := by
  -- Each turn of the search compares the needle at one place.
  refine IsLeftmost.of_turns ?_ ?_ ?_
  · intro place
    cases needle <;> simp [occurrence?, eq_comm]
  · intro byte rest now
    rw [occurrence?, if_pos (List.isPrefixOf_iff_prefix.mpr now)]
  · intro byte rest later
    rw [occurrence?, if_neg (mt List.isPrefixOf_iff_prefix.mp later)]

/-- The search for a needle finds the first place where it occurs. -/
theorem firstPlace_occurrence? (needle bytes : Bytes) :
    FirstPlace (needle <+: ·) bytes ((occurrence? needle bytes).getD bytes.length) :=
  (isLeftmost_occurrence? needle).firstPlace bytes

/-- Bytes begin with one of the wanted ones. -/
def BeginsWithAny (wanted bytes : Bytes) : Prop :=
  -- No bytes at all begin with none.
  ∃ byte ∈ bytes.head?, byte ∈ wanted

/-- The search for one of several bytes has the law of the first place where one stands. -/
theorem isLeftmost_anyOf? (wanted : Bytes) :
    IsLeftmost (BeginsWithAny wanted) (anyOf? wanted) := by
  -- Each turn of the search looks at one byte, and there is none at the end.
  have begins : ∀ byte rest, BeginsWithAny wanted (byte :: rest) ↔ wanted.contains byte = true := by
    intro byte rest
    simp [BeginsWithAny]
  refine IsLeftmost.of_turns ?_ ?_ ?_
  · intro place
    simp [anyOf?, BeginsWithAny]
  · intro byte rest now
    rw [anyOf?, List.findIdx?_cons, if_pos ((begins byte rest).mp now)]
  · intro byte rest later
    rw [anyOf?, List.findIdx?_cons, if_neg (mt (begins byte rest).mpr later), anyOf?]

/-- The search for one of several bytes finds the first place where one of them stands. -/
theorem firstPlace_anyOf? (wanted bytes : Bytes) :
    FirstPlace (BeginsWithAny wanted) bytes ((anyOf? wanted bytes).getD bytes.length) :=
  (isLeftmost_anyOf? wanted).firstPlace bytes

end RuneScan.Bytes
