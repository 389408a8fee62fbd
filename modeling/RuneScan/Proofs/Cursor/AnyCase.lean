import RuneScan.Cursor.Mismatch
import RuneScan.Proofs.Cursor.Boundary
import RuneScan.Proofs.Cursor.Stride
import RuneScan.Proofs.Text.AnyCase
import RuneScan.Proofs.Utf8.Cut

/-! Matches in any case are counted in bytes, so some of them end inside of a rune. -/

namespace RuneScan.Cursor

open Unicode (sameLetter)

/--
A text in any case matches up to a place inside of a rune.

The bytes of that rune before the place are read as one replacement each, with which the text ends.
The runes before it are wider than the same letters of the text, by as much as is needed.
-/
def SplitsRune (start : Cursor) (text : String) : Prop :=
  ∃ before place stem count, start.Passes before place ∧
    0 < count ∧ count < place.reading.width ∧
    place.skip count = start.skip (Utf8.encode text).length ∧
    text.toList = stem ++ List.replicate count Utf8.replacement ∧
    List.Forall₂ (fun first second => sameLetter first second = true) before stem

/-- A text that does not end with a replacement splits no rune. -/
theorem not_splitsRune_of_getLast? {text : String}
    (plain : text.toList.getLast? ≠ some Utf8.replacement) (start : Cursor) :
    ¬ start.SplitsRune text := by
  -- The part of the split rune is read as at least one replacement.
  rintro ⟨_, _, stem, count, _, further, _, _, ends, _⟩
  apply plain
  obtain ⟨more, rfl⟩ : ∃ more, count = more + 1 := ⟨count - 1, by omega⟩
  rw [ends, List.replicate_succ', ← List.append_assoc, List.getLast?_concat]

/-- Bytes that are cut off behind a passage are read as its runes and what is left of the others. -/
theorem Passes.runes_take {start last : Cursor} {runes : List Char} {count behind : Nat}
    (passes : start.Passes runes last) (reached : last.skip behind = start.skip count) :
    Utf8.runes (start.rest.take count) = runes ++ Utf8.runes (last.rest.take behind) := by
  -- Each step of the passage lies before the cut.
  induction passes generalizing count with
  | still =>
    have same := congrArg Cursor.offset reached
    rw [offset_skip, offset_skip, Nat.add_left_cancel_iff] at same
    rw [same, List.nil_append]
  | @step cursor next last runes stepped later ih =>
    obtain ⟨filled, rfl⟩ := next?_eq_some_iff.mp stepped
    have taken := width_reading_pos filled
    have onward := later.offset_le
    have places := congrArg Cursor.offset reached
    rw [offset_skip] at onward
    rw [offset_skip, offset_skip] at places
    have fits : cursor.reading.width ≤ count := by omega
    have nonempty : cursor.rest.take count ≠ [] := by
      rw [ne_eq, List.take_eq_nil_iff, not_or]
      exact ⟨by omega, filled⟩
    have shifted : last.skip behind = (cursor.skip cursor.reading.width).skip
        (count - cursor.reading.width) := by
      rw [skip_skip, Nat.add_sub_cancel' fits, reached]
    rw [Utf8.runes_of_ne_nil nonempty, Utf8.read_take fits, List.drop_take, List.cons_append,
      ← ih shifted, rest_skip]
    rfl

private theorem eq_replicate_of_pairs {runes : List Char} {count : Nat}
    (pairs : List.Forall₂ (fun first second => sameLetter first second = true)
      (List.replicate count Utf8.replacement) runes) :
    runes = List.replicate count Utf8.replacement := by
  -- A replacement is paired with nothing but another one.
  induction count generalizing runes with
  | zero => exact List.forall₂_nil_left_iff.mp pairs
  | succ count ih =>
    rw [List.replicate_succ] at pairs
    obtain ⟨other, others, same, later, rfl⟩ := List.forall₂_cons_left_iff.mp pairs
    rw [List.replicate_succ, Unicode.eq_of_sameLetter_replacement same, ih later]
    rfl

private theorem exists_stem_of_pairs {before runes : List Char} {count : Nat}
    (pairs : List.Forall₂ (fun first second => sameLetter first second = true)
      (before ++ List.replicate count Utf8.replacement) runes) :
    ∃ stem, runes = stem ++ List.replicate count Utf8.replacement ∧
      List.Forall₂ (fun first second => sameLetter first second = true) before stem := by
  -- The runes in front are paired one by one.
  induction before generalizing runes with
  | nil => exact ⟨[], eq_replicate_of_pairs pairs, List.Forall₂.nil⟩
  | cons first before ih =>
    rw [List.cons_append] at pairs
    obtain ⟨other, others, same, later, rfl⟩ := List.forall₂_cons_left_iff.mp pairs
    obtain ⟨stem, rfl, front⟩ := ih later
    exact ⟨other :: stem, rfl, List.Forall₂.cons same front⟩

/-- A match in any case is accepted if as many bytes as the text has pair up with it. -/
theorem accept?_anyCase_iff {cursor next : Cursor} {text : String} :
    cursor.accept? (.anyCase text) = some next ↔
      Text.PairUp (cursor.rest.take (Utf8.encode text).length) (Utf8.encode text) ∧
        (Utf8.encode text).length ≤ cursor.remaining ∧
        cursor.skip (Utf8.encode text).length = next := by
  -- The step needs as many bytes, whatever stands in their place.
  rw [accept?_eq_some_iff, sees, Text.equalAnyCase_iff, stepOver?, advance?_eq_some, peek]

/-- An accepted match ends where steps over runes lead, or it splits a rune. -/
theorem leadsTo_or_splitsRune {cursor next : Cursor} {text : String}
    (accepted : cursor.accept? (.anyCase text) = some next) :
    cursor.LeadsTo next ∨ cursor.SplitsRune text := by
  obtain ⟨pairs, within, rfl⟩ := accept?_anyCase_iff.mp accepted
  -- The end of the match is reached by a passage, or it lies inside of a rune.
  obtain ⟨before, place, behind, passes, reached, inner⟩ := exists_passes_around within
  by_cases exact : behind = 0
  · rw [exact, skip_zero] at reached
    exact Or.inl ⟨before, reached ▸ passes⟩
  · -- The part of the rune at the end is read as replacements, which the text has to have too.
    have inside : behind < place.reading.width := by omega
    rw [Text.PairUp, passes.runes_take reached,
      Utf8.runes_take_inside (Nat.pos_of_ne_zero exact) inside, Utf8.runes_encode] at pairs
    obtain ⟨stem, ends, front⟩ := exists_stem_of_pairs pairs
    exact Or.inr ⟨before, place, stem, behind, passes, Nat.pos_of_ne_zero exact, inside, reached,
      ends, front⟩

/-- A text that splits a rune is accepted, but no steps over runes lead to where its match ends. -/
theorem SplitsRune.accept?_eq {cursor : Cursor} {text : String} (splits : cursor.SplitsRune text) :
    cursor.accept? (.anyCase text) = some (cursor.skip (Utf8.encode text).length) ∧
      ¬ cursor.LeadsTo (cursor.skip (Utf8.encode text).length) := by
  obtain ⟨before, place, stem, count, passes, further, inside, reached, ends, front⟩ := splits
  refine ⟨?_, ?_⟩
  · refine accept?_anyCase_iff.mpr ⟨?_, ?_, rfl⟩
    · -- What is left of the split rune pairs up with the replacements at the end of the text.
      rw [Text.PairUp, passes.runes_take reached, Utf8.runes_take_inside further inside,
        Utf8.runes_encode, ends]
      exact List.rel_append front (List.forall₂_same.mpr fun rune _ => Unicode.sameLetter_refl rune)
    · -- The rune that is split lies within the rest.
      obtain ⟨passed, within, rfl⟩ := passes.exists_skip
      have places := congrArg Cursor.offset reached
      have fits := Utf8.read_width_le (cursor.skip passed).rest
      rw [rest_skip, List.length_drop, length_rest] at fits
      rw [reading, rest_skip] at inside
      rw [offset_skip, offset_skip, offset_skip] at places
      omega
  · -- The end of the match lies within a rune that the passage comes to.
    rw [← reached]
    exact LeadsTo.not_inside ⟨before, passes⟩ further inside

private theorem eq_empty_of_tails {view : Bytes} {text : String}
    (tails : ∀ byte ∈ view, Utf8.continues byte = true)
    (length : view.length = (Utf8.encode text).length)
    (pairs : Text.PairUp view (Utf8.encode text)) : text = "" := by
  -- The replacements of the text take up three times as many bytes as the tails.
  rw [Text.PairUp, Utf8.runes_of_tails tails, Utf8.runes_encode] at pairs
  have runes := eq_replicate_of_pairs pairs
  have size : (Utf8.encode text).length = view.length * 3 := by
    rw [Utf8.encode, runes, List.flatMap_replicate]
    simp [Utf8.utf8Size_replacement]
  have nothing : view.length = 0 := by omega
  rw [nothing, List.replicate_zero] at runes
  exact String.toList_eq_nil_iff.mp runes

private theorem leadsTo_ofText_of_match {source text : String} {cursor : Cursor}
    (buffer : cursor.buffer = Utf8.encode source) (filled : text ≠ "")
    (within : (Utf8.encode text).length ≤ cursor.remaining)
    (pairs : Text.PairUp (cursor.rest.take (Utf8.encode text).length) (Utf8.encode text))
    (leads : cursor.LeadsTo (cursor.skip (Utf8.encode text).length)) :
    (ofText source).LeadsTo (cursor.skip (Utf8.encode text).length) := by
  -- A match that is not empty ends in a rune which the steps from either place come to.
  have positive := Utf8.length_encode_pos_iff.mpr filled
  have whole : cursor.offset + (Utf8.encode text).length ≤ (ofText source).remaining := by
    rw [remaining, buffer] at within
    rw [← length_rest, rest_ofText]
    omega
  obtain ⟨runes, place, behind, passes, reached, inner⟩ := exists_passes_around whole
  have shared : place.buffer = cursor.buffer := passes.buffer_eq.trans buffer.symm
  have ends : place.skip behind = cursor.skip (Utf8.encode text).length := by
    rw [reached, skip, skip, buffer, ofText, ofBytes, Nat.zero_add]
  by_cases exact : behind = 0
  · rw [exact, skip_zero] at ends
    exact ⟨runes, ends ▸ passes⟩
  · exfalso
    have inside : behind < place.reading.width := by omega
    rcases Nat.lt_or_ge place.offset cursor.offset with inward | ahead
    · -- The whole match lies inside of one rune, where no text has as few bytes as runes.
      have places := congrArg Cursor.offset ends
      rw [offset_skip, offset_skip] at places
      apply filled
      refine eq_empty_of_tails ?_ ?_ pairs
      · rw [← skip_of_buffer_eq shared.symm (Nat.le_of_lt inward), rest_skip]
        rw [reading] at inside
        exact Utf8.continues_of_mem_inside (by omega) (by omega)
      · rw [List.length_take, length_rest, Nat.min_eq_left within]
    · -- The passage from the beginning of the match comes to the rune as well.
      have first : cursor.LeadsTo place := LeadsTo.of_wide shared ahead (by omega)
      rw [← ends] at leads
      exact first.not_inside (Nat.pos_of_ne_zero exact) inside leads

/-- In a text, an accepted match ends between runes exactly if it splits none. -/
theorem betweenRunes_iff_not_splitsRune {source text : String} {cursor next : Cursor}
    (buffer : cursor.buffer = Utf8.encode source)
    (started : cursor.BetweenRunes source ∨ text ≠ "")
    (accepted : cursor.accept? (.anyCase text) = some next) :
    next.BetweenRunes source ↔ ¬ cursor.SplitsRune text := by
  obtain ⟨pairs, within, rfl⟩ := accept?_anyCase_iff.mp accepted
  rw [← leadsTo_ofText_iff]
  constructor
  · -- The rune that is split would be reached from the beginning of the text as well.
    rintro ends ⟨before, place, stem, count, passes, further, inside, reached, _⟩
    have leads : (ofText source).LeadsTo place :=
      LeadsTo.of_wide (passes.buffer_eq.trans buffer) (Nat.zero_le _) (by omega)
    rw [← reached] at ends
    exact leads.not_inside further inside ends
  · intro whole
    have leads := (leadsTo_or_splitsRune accepted).resolve_right whole
    rcases started with between | filled
    · exact (leadsTo_ofText_iff.mpr between).trans leads
    · exact leadsTo_ofText_of_match buffer filled within pairs leads

/-- A demand is met by the match that is accepted. -/
theorem require_eq_ok_iff {cursor next : Cursor} {pattern : Pattern} :
    cursor.require pattern = .ok next ↔ cursor.accept? pattern = some next := by
  -- Where nothing is accepted there is a report instead.
  rw [require]
  cases cursor.accept? pattern <;> simp [demand]

/-- The cursor is still where it began, or it is where a match of the text ends. -/
def EndsMatch (start : Cursor) (text : String) (cursor : Cursor) : Prop :=
  cursor.buffer = start.buffer ∧ (cursor = start ∨ ∃ place : Cursor,
    place.buffer = start.buffer ∧ place.accept? (.anyCase text) = some cursor)

private theorem endsMatch_passAll (cursor : Cursor) (text : String) :
    cursor.EndsMatch text (cursor.passAll (.anyCase text)) := by
  -- Whatever place the loop has come to, a match from there is in the same buffer.
  have each : ∀ place next, cursor.EndsMatch text place →
      place.accept? (.anyCase text) = some next → cursor.EndsMatch text next := by
    rintro place next ⟨buffer, _⟩ matched
    obtain ⟨_, _, rfl⟩ := accept?_anyCase_iff.mp matched
    exact ⟨buffer, Or.inr ⟨place, buffer, matched⟩⟩
  exact passAll_keeps each ⟨rfl, Or.inl rfl⟩

/-- Accepting as many matches as there are takes a text, and ends with the last of them. -/
theorem exists_accept?_of_acceptMany? {cursor last : Cursor} {text : String}
    (accepted : cursor.acceptMany? (.anyCase text) = some last) :
    text ≠ "" ∧ ∃ place : Cursor, place.buffer = cursor.buffer ∧
      place.accept? (.anyCase text) = some last := by
  -- It has moved, so that there was a match.
  obtain ⟨reached, further⟩ := progress?_eq_some_iff.mp accepted
  refine ⟨?_, ?_⟩
  · rintro rfl
    rw [← reached, passAll_of_isEmpty rfl] at further
    omega
  · obtain ⟨_, still | ends⟩ := reached ▸ endsMatch_passAll cursor text
    · rw [still] at further
      omega
    · exact ends

/--
In a text, a match in any case ends between runes exactly if it splits none.

This is so for a match that is accepted or demanded, and for the last one of many. A text that does
not end with a replacement never splits a rune.
-/
theorem accept_anyCase_between_iff {source : String} {cursor : Cursor}
    (between : cursor.BetweenRunes source) (text : String) :
    (∀ next, cursor.accept? (.anyCase text) = some next →
      (next.BetweenRunes source ↔ ¬ cursor.SplitsRune text)) ∧
      (∀ next, cursor.require (.anyCase text) = .ok next →
        (next.BetweenRunes source ↔ ¬ cursor.SplitsRune text)) ∧
      (∀ last, cursor.acceptMany? (.anyCase text) = some last →
        (last.BetweenRunes source ↔ ¬ ∃ place : Cursor,
          place.accept? (.anyCase text) = some last ∧ place.SplitsRune text)) ∧
      (text.toList.getLast? ≠ some Utf8.replacement → ∀ place, ¬ SplitsRune place text) := by
  have single : ∀ next, cursor.accept? (.anyCase text) = some next →
      (next.BetweenRunes source ↔ ¬ cursor.SplitsRune text) :=
    fun next => betweenRunes_iff_not_splitsRune between.1 (Or.inl between)
  -- A match that is demanded is one that is accepted.
  refine ⟨single, ?_, ?_, not_splitsRune_of_getLast?⟩
  · exact fun next met => single next (require_eq_ok_iff.mp met)
  · intro last accepted
    obtain ⟨filled, place, buffer, matched⟩ := exists_accept?_of_acceptMany? accepted
    have whole := betweenRunes_iff_not_splitsRune (buffer.trans between.1) (Or.inr filled) matched
    rw [whole, not_iff_not]
    constructor
    · exact fun splits => ⟨place, matched, splits⟩
    · -- There is only one place from which a match of the text ends there.
      rintro ⟨other, alsoMatched, splits⟩
      obtain ⟨_, _, reached⟩ := accept?_anyCase_iff.mp matched
      obtain ⟨_, _, same⟩ := accept?_anyCase_iff.mp alsoMatched
      rwa [skip_injective _ (reached.trans same.symm)]

private theorem splitsRune_kelvin : (ofText "\u212Aé").SplitsRune "k\uFFFD" := by
  -- The sign for kelvin has two bytes more than the k, and so the match takes one of the é.
  have standing : ['\u212A'].flatMap Utf8.encodeRune <+: (ofText "\u212Aé").rest := by
    decide +kernel
  exact ⟨['\u212A'], (ofText "\u212Aé").skip 3, ['k'], 1, passes_of_prefix standing,
    by decide +kernel, by decide +kernel, by decide +kernel, by decide +kernel,
    by decide +kernel⟩

private theorem betweenRunes_ofText (source : String) : (ofText source).BetweenRunes source :=
  leadsTo_ofText_iff.mp (LeadsTo.refl _)

/-- A k with a replacement matches the sign for kelvin and one of the two bytes of an é. -/
theorem accept_anyCase_inside_kelvin :
    (ofText "\u212Aé").BetweenRunes "\u212Aé" ∧
      (ofText "\u212Aé").accept? (.anyCase "k\uFFFD") = some ((ofText "\u212Aé").skip 4) ∧
      ¬ ((ofText "\u212Aé").skip 4).BetweenRunes "\u212Aé" ∧
      ∀ place, ¬ SplitsRune place "kelvin" := by
  have start := betweenRunes_ofText "\u212Aé"
  have accepted := splitsRune_kelvin.accept?_eq.1
  have ends := (accept_anyCase_between_iff start "k\uFFFD").1 _ accepted
  have plain : "kelvin".toList.getLast? ≠ some Utf8.replacement := by decide
  refine ⟨start, accepted, fun between => ends.mp between splitsRune_kelvin, ?_⟩
  exact (accept_anyCase_between_iff start "kelvin").2.2.2 plain

/-- Not every match in any case that begins between two runes ends between two. -/
theorem accept_anyCase_not_between :
    ¬ ∀ (source : String) (cursor : Cursor) (text : String) (next : Cursor),
      cursor.BetweenRunes source → cursor.accept? (.anyCase text) = some next →
        next.BetweenRunes source := by
  -- The match of a k with a replacement ends within the é behind the sign for kelvin.
  intro whole
  obtain ⟨accepted, inside⟩ := splitsRune_kelvin.accept?_eq
  exact inside (leadsTo_ofText_iff.mpr (whole _ _ _ _ (betweenRunes_ofText _) accepted))

end RuneScan.Cursor
