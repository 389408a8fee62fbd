import RuneScan.Proofs.Cursor.AnyCase
import RuneScan.Proofs.Text.Recased

/-! The case of ASCII letters never decides whether a text is matched in any case, nor how far. -/

namespace RuneScan.Cursor

open Text (Recased)

/-- The bytes of a text stand at the cursor, but for the case of ASCII letters. -/
structure Spells (cursor : Cursor) (text : String) : Prop where
  /-- As many bytes as the text has are left. -/
  within : (Utf8.encode text).length ≤ cursor.remaining
  /-- They are those of the text, but for the case of ASCII letters. -/
  same : Recased (cursor.rest.take (Utf8.encode text).length) (Utf8.encode text)

/-- The next bytes pair up with an ASCII text exactly where that text is spelled. -/
theorem pairUp_ascii_iff_spells {text : String} (ascii : Bytes.isAscii (Utf8.encode text) = true)
    (cursor : Cursor) :
    Text.PairUp (cursor.rest.take (Utf8.encode text).length) (Utf8.encode text) ↔
      cursor.Spells text := by
  -- What is compared with the text never has more bytes than the text.
  have short : (cursor.rest.take (Utf8.encode text).length).length ≤ (Utf8.encode text).length :=
    List.length_take_le ..
  rw [Text.pairUp_ascii_iff ascii short]
  constructor
  -- Bytes that pair up with the whole text are as many as it has.
  · intro same
    have whole := same.length_eq
    rw [List.length_take, length_rest] at whole
    exact ⟨by omega, same⟩
  · exact Spells.same

/--
An ASCII text is matched in any case where it is spelled, and nowhere else.

It is accepted exactly there, by passing as many bytes as its own. All of them are ASCII bytes, so
no rune that looks like a letter and no malformed byte is taken for a part of the text.
-/
theorem anyCase_ascii_exact {text : String} (ascii : Bytes.isAscii (Utf8.encode text) = true)
    (cursor : Cursor) :
    (cursor.sees (.anyCase text) = true ↔ cursor.Spells text) ∧
      (∀ next, cursor.accept? (.anyCase text) = some next ↔
        cursor.Spells text ∧ next = cursor.skip (Utf8.encode text).length) ∧
      (cursor.sees (.anyCase text) = true →
        ∀ byte ∈ cursor.rest.take (Utf8.encode text).length, byte < 0x80) := by
  have paired := pairUp_ascii_iff_spells ascii cursor
  -- To see the text is to compare it with the next bytes.
  have seen : cursor.sees (.anyCase text) = true ↔ cursor.Spells text := by
    rw [sees, peek, Text.equalAnyCase_iff, paired]
  refine ⟨seen, ?_, ?_⟩
  · intro next
    rw [accept?_anyCase_iff, paired, eq_comm (a := next)]
    exact and_congr_right fun spelled => and_iff_right spelled.within
  · intro matched byte member
    -- The bytes that pair up with ASCII bytes are ASCII bytes themselves.
    have short : (cursor.rest.take (Utf8.encode text).length).length ≤ (Utf8.encode text).length :=
      List.length_take_le ..
    have small := Text.isAscii_of_pairUp ascii short (paired.mpr (seen.mp matched))
    exact Bytes.isAscii_iff.mp small byte member

/-- A keyword is accepted in capitals, but not with the sign for kelvin in the place of its k. -/
theorem anyCase_ascii_keyword :
    Bytes.isAscii (Utf8.encode "key") = true ∧
      (Cursor.ofText "KEy=").accept? (.anyCase "key") = some ((Cursor.ofText "KEy=").skip 3) ∧
      (Cursor.ofText "\u212Aey=").sees (.anyCase "key") = false := by
  have ascii : Bytes.isAscii (Utf8.encode "key") = true := by decide +kernel
  have capitals := anyCase_ascii_exact ascii (Cursor.ofText "KEy=")
  have kelvin := anyCase_ascii_exact ascii (Cursor.ofText "\u212Aey=")
  refine ⟨ascii, (capitals.2.1 _).mpr ⟨⟨by decide +kernel, by decide +kernel⟩, rfl⟩, ?_⟩
  -- The sign for kelvin takes three bytes, of which none is that of a k.
  rw [Bool.eq_false_iff, ne_eq, kelvin.1]
  rintro ⟨_, same⟩
  revert same
  decide +kernel

/-- Two cursors stand at the same place of buffers that differ in the case of ASCII letters only. -/
structure OnRecased (first second : Cursor) : Prop where
  /-- Both have passed as many bytes. -/
  offset : first.offset = second.offset
  /-- The buffers are the same but for the case of ASCII letters. -/
  buffer : Recased first.buffer second.buffer

namespace OnRecased

variable {first second : Cursor} (on : first.OnRecased second)
include on

/-- What is left differs in the case of letters only. -/
theorem rest : Recased first.rest second.rest := by
  -- As many bytes are left out of both buffers.
  rw [Cursor.rest, Cursor.rest, on.offset]
  exact List.forall₂_drop _ on.buffer

/-- Equally many bytes remain. -/
theorem remaining_eq : first.remaining = second.remaining := by
  -- What is left differs in no length.
  rw [← length_rest, on.rest.length_eq, length_rest]

/-- Equal skips lead to such cursors again. -/
theorem skip (count : Nat) : (first.skip count).OnRecased (second.skip count) := by
  -- Both offsets grow by the same count.
  refine ⟨?_, on.buffer⟩
  rw [offset_skip, offset_skip, on.offset]

variable {text other : String} (same : Recased (Utf8.encode text) (Utf8.encode other))
include same

/-- Both cursors see a text in any case, or none of them does. -/
theorem sees_eq : first.sees (.anyCase text) = second.sees (.anyCase other) := by
  -- Both compare as many bytes, and the case of those makes no difference.
  rw [sees, sees, peek, peek, same.length_eq]
  exact Text.equalAnyCase_congr (List.forall₂_take _ on.rest) same

/-- A match in any case is passed at both cursors by equally many bytes, or at none of them. -/
theorem exists_accept?_eq : ∃ stride : Option Nat,
    first.accept? (.anyCase text) = stride.map first.skip ∧
      second.accept? (.anyCase other) = stride.map second.skip := by
  -- The step fails at both cursors for want of bytes, if it does.
  rw [accept?, accept?, stepOver?, stepOver?, advance?, advance?, ← on.sees_eq same,
    ← on.remaining_eq, ← same.length_eq]
  by_cases passed : first.sees (.anyCase text) = true ∧
      ¬ first.remaining < (Utf8.encode text).length
  · exact ⟨some (Utf8.encode text).length, by simp [passed], by simp [passed]⟩
  · refine ⟨none, ?_, ?_⟩ <;> simp_all

private theorem accept?_of_accept? {next : Cursor}
    (accepted : first.accept? (.anyCase text) = some next) :
    ∃ count, next = first.skip count ∧
      second.accept? (.anyCase other) = some (second.skip count) := by
  -- The match passes as many bytes at the other cursor.
  obtain ⟨stride, here, there⟩ := on.exists_accept?_eq same
  rw [accepted, eq_comm, Option.map_eq_some_iff] at here
  obtain ⟨count, rfl, rfl⟩ := here
  exact ⟨count, rfl, there⟩

/-- Matches in any case are passed at both cursors by equally many bytes. -/
theorem exists_passAll_eq : ∃ count,
    first.passAll (.anyCase text) = first.skip count ∧
      second.passAll (.anyCase other) = second.skip count := by
  -- The induction follows the matches at the first cursor.
  fun_induction passAll first (.anyCase text) generalizing second with
  | case1 first stuck =>
    obtain ⟨stride, here, there⟩ := on.exists_accept?_eq same
    rw [stuck, eq_comm, Option.map_eq_none_iff] at here
    rw [here, Option.map_none] at there
    exact ⟨0, rfl, passAll_stop there⟩
  | case2 first next accepted fewer ih =>
    -- A match at one cursor is one at the other, behind which they are at the same place.
    obtain ⟨count, rfl, there⟩ := on.accept?_of_accept? same accepted
    obtain ⟨more, onward, alsoOnward⟩ := ih (on.skip count)
    rw [(on.skip count).remaining_eq, on.remaining_eq] at fewer
    refine ⟨count + more, by rw [onward, skip_skip], ?_⟩
    rw [passAll_step there, if_pos fewer, alsoOnward, skip_skip]
  | case3 first next accepted stays =>
    -- A match of nothing is not repeated at the second cursor either.
    obtain ⟨count, rfl, there⟩ := on.accept?_of_accept? same accepted
    rw [(on.skip count).remaining_eq, on.remaining_eq] at stays
    exact ⟨0, rfl, by rw [passAll_step there, if_neg stays, skip_zero]⟩

end OnRecased

/--
The case of ASCII letters makes no difference to matches in any case, on either side.

Two views stay equal up to case, or different. In a buffer and in the text that is looked for, it
changes neither what is seen or accepted, once or as often as possible, nor where that ends.
-/
theorem anyCase_ignores_ascii_case :
    (∀ {left right other another : Bytes}, Recased left other → Recased right another →
      Text.equalAnyCase other another = Text.equalAnyCase left right) ∧
    ∀ {first second : Cursor} {text other : String}, first.OnRecased second →
      Recased (Utf8.encode text) (Utf8.encode other) →
      second.sees (.anyCase other) = first.sees (.anyCase text) ∧
      (second.accept? (.anyCase other)).map offset = (first.accept? (.anyCase text)).map offset ∧
      (second.acceptMany? (.anyCase other)).map offset =
        (first.acceptMany? (.anyCase text)).map offset := by
  refine ⟨fun same alsoSame => (Text.equalAnyCase_congr same alsoSame).symm, ?_⟩
  intro first second text other on same
  -- Both cursors pass as many bytes, and so they come to the same offset.
  refine ⟨(on.sees_eq same).symm, ?_, ?_⟩
  · obtain ⟨stride, here, there⟩ := on.exists_accept?_eq same
    rw [here, there, Option.map_map, Option.map_map]
    congr 1
    funext count
    exact (on.skip count).offset.symm
  · obtain ⟨count, here, there⟩ := on.exists_passAll_eq same
    rw [acceptMany?, acceptMany?, here, there, progress?_skip, progress?_skip]
    split
    · exact congrArg some (on.skip count).offset.symm
    · rfl

/-- A long s matches an s in both cases, as the first one of two letters and as the second. -/
theorem anyCase_ignores_ascii_case_long_s :
    (ofText "Sſ!").OnRecased (ofText "sſ!") ∧ Recased (Utf8.encode "ſs") (Utf8.encode "ſS") ∧
      Text.equalAnyCase (Utf8.encode "sſ") (Utf8.encode "ſS") = true ∧
      ((ofText "sſ!").accept? (.anyCase "ſS")).map offset = some 3 := by
  have on : (ofText "Sſ!").OnRecased (ofText "sſ!") := ⟨rfl, by decide +kernel⟩
  have same : Recased (Utf8.encode "ſs") (Utf8.encode "ſS") := by decide +kernel
  have view : Recased (Utf8.encode "Sſ") (Utf8.encode "sſ") := by decide +kernel
  have pairs : Text.PairUp (Utf8.encode "Sſ") (Utf8.encode "ſs") := by
    rw [Text.pairUp_encode_iff]
    decide +kernel
  have cut : (ofText "Sſ!").rest.take (Utf8.encode "ſs").length = Utf8.encode "Sſ" := by
    decide +kernel
  have accepted : (ofText "Sſ!").accept? (.anyCase "ſs") = some ((ofText "Sſ!").skip 3) :=
    accept?_anyCase_iff.mpr ⟨cut ▸ pairs, by decide +kernel, by decide +kernel⟩
  refine ⟨on, same, ?_, ?_⟩
  · rw [anyCase_ignores_ascii_case.1 view same, Text.equalAnyCase_iff]
    exact pairs
  · rw [(anyCase_ignores_ascii_case.2 on same).2.1, accepted]
    rfl

end RuneScan.Cursor
