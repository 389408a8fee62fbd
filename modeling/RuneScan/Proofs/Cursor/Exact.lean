import RuneScan.Proofs.Cursor.Chunks

/-! A text that is matched exactly is matched in any case too, once and as often as it follows. -/

namespace RuneScan.Cursor

/-- Wherever a pattern is accepted, another one is accepted by the same bytes. -/
def AcceptsAlike (pattern looser : Pattern) : Prop :=
  ∀ cursor next : Cursor, cursor.accept? pattern = some next → cursor.accept? looser = some next

/-- A text that is seen is seen in any case. -/
theorem sees_anyCase_of_exactly {cursor : Cursor} {text : String}
    (seen : cursor.sees (.exactly text) = true) : cursor.sees (.anyCase text) = true := by
  -- As many bytes as the text has are those of the text, and every rune is the same as itself.
  rw [sees, List.isPrefixOf_iff_prefix, List.prefix_iff_eq_take] at seen
  rw [sees, peek, ← seen, Text.equalAnyCase_iff]
  exact Text.PairUp.refl _

/-- A text that is accepted is accepted in any case, by the same bytes. -/
theorem acceptsAlike_anyCase (text : String) : AcceptsAlike (.exactly text) (.anyCase text) := by
  intro cursor next accepted
  -- The step is by the bytes of the text in either case.
  rw [accept?_eq_some_iff] at accepted ⊢
  exact ⟨sees_anyCase_of_exactly accepted.1, accepted.2⟩

/-- A demand that is met by a pattern is met by one that is accepted alike. -/
theorem AcceptsAlike.require {pattern looser : Pattern} (alike : AcceptsAlike pattern looser)
    {cursor next : Cursor} (met : cursor.require pattern = .ok next) :
    cursor.require looser = .ok next :=
  require_eq_ok_iff.mpr (alike cursor next (require_eq_ok_iff.mp met))

/-- Passing the matches of the looser pattern goes on where those of the other one end. -/
theorem AcceptsAlike.passAll_passAll {pattern looser : Pattern}
    (alike : AcceptsAlike pattern looser) (cursor : Cursor) :
    (cursor.passAll pattern).passAll looser = cursor.passAll looser := by
  -- The induction follows the matches of the pattern, each of which is one of the looser one.
  fun_induction passAll cursor pattern with
  | case1 => rfl
  | case2 cursor next accepted fewer ih =>
    rw [ih, passAll_step (alike cursor next accepted), if_pos fewer]
  | case3 => rfl

/-- Matches of a text in any case pass a number of its sizes, which is none for an empty text. -/
theorem exists_passAll_anyCase_eq (cursor : Cursor) (text : String) :
    ∃ count, cursor.passAll (.anyCase text) =
      cursor.skip (count * (Utf8.encode text).length) := by
  -- Every match of a text with something in it is one chunk of its size.
  by_cases empty : text = ""
  · have nothing : (Pattern.anyCase text).isEmpty = true := beq_iff_eq.mpr empty
    exact ⟨0, by rw [passAll_of_isEmpty nothing, Nat.zero_mul, skip_zero]⟩
  · obtain ⟨count, exhausts⟩ := exists_exhaustsChunks (matchesChunks_anyCase text)
      (Utf8.length_encode_pos_iff.mpr empty) cursor
    exact ⟨count, exhausts.passAll_eq⟩

/-- Accepting as many matches as there are leads to where the matches end. -/
theorem cursor_run_acceptMany (cursor : Cursor) (pattern : Pattern) :
    ((Script.Move.acceptMany pattern).run cursor).cursor = cursor.passAll pattern := by
  -- Where the matches end at the cursor, the move fails and stays there.
  obtain ⟨count, _, skips⟩ := exists_passAll_eq cursor.rest pattern
  show (cursor.progress? (cursor.passAll pattern)).getD cursor = cursor.passAll pattern
  rw [skips cursor rfl, getD_progress?_skip]

/--
A text that is matched exactly is matched in any case, by the same bytes.

Where it is seen, accepted or demanded with success, it is so in any case. Accepted as often as it
follows, it ends no earlier in any case than exactly, and later by a multiple of its size.
-/
theorem anyCase_of_exactly (cursor : Cursor) (text : String) :
    (cursor.sees (.exactly text) = true → cursor.sees (.anyCase text) = true) ∧
      (∀ next, cursor.accept? (.exactly text) = some next →
        cursor.accept? (.anyCase text) = some next) ∧
      (∀ next, cursor.require (.exactly text) = .ok next →
        cursor.require (.anyCase text) = .ok next) ∧
      ∃ count, ((Script.Move.acceptMany (.anyCase text)).run cursor).cursor =
        ((Script.Move.acceptMany (.exactly text)).run cursor).cursor.skip
          (count * (Utf8.encode text).length) := by
  have alike := acceptsAlike_anyCase text
  refine ⟨sees_anyCase_of_exactly, alike cursor, fun _ => alike.require, ?_⟩
  -- Where the exact matches end, the matches in any case go on.
  rw [cursor_run_acceptMany, cursor_run_acceptMany, ← alike.passAll_passAll]
  exact exists_passAll_anyCase_eq _ text

/-- A text with a dotless i and a replacement is matched both ways, and once more in any case. -/
theorem anyCase_of_exactly_dotless :
    let text := "ıé\uFFFD"
    let cursor := ofBytes (Utf8.encode (text ++ "ıÉ\uFFFD") ++ [0xFF])
    cursor.accept? (.exactly text) = some (cursor.skip 7) ∧
      cursor.sees (.anyCase text) = true ∧
      cursor.accept? (.anyCase text) = some (cursor.skip 7) ∧
      cursor.require (.anyCase text) = .ok (cursor.skip 7) := by
  intro text cursor
  have accepted : cursor.accept? (.exactly text) = some (cursor.skip 7) := by decide +kernel
  obtain ⟨sees, accepts, requires, _⟩ := anyCase_of_exactly cursor text
  exact ⟨accepted, sees (accept?_eq_some_iff.mp accepted).1, accepts _ accepted,
    requires _ (require_eq_ok_iff.mpr accepted)⟩

/-- The second match is in another case, so that only matches in any case come to the bad byte. -/
example :
    let cursor := ofBytes (Utf8.encode "ıÉ\uFFFD" ++ [0xFF])
    cursor.sees (.exactly "ıé\uFFFD") = false ∧ cursor.sees (.oneOf "é") = false := by
  decide +kernel

end RuneScan.Cursor
