import RuneScan.Proofs.Utf8.Reading
import RuneScan.Utf8.Lossy

/-! Reading is decoding: which bytes begin a rune, and what is read where none begins. -/

namespace RuneScan.Utf8

/-- A first byte is followed by bytes that fall into the ranges it sets for a well-formed rune. -/
def BeginsRune (first : UInt8) (rest : Bytes) : Prop :=
  -- An ASCII byte needs nothing behind it, and other bytes that set no ranges begin no rune.
  first < 0x80 ∨
    tailRanges first ≠ [] ∧ conforming (tailRanges first) rest = (tailRanges first).length

instance (first : UInt8) (rest : Bytes) : Decidable (BeginsRune first rest) :=
  inferInstanceAs (Decidable (_ ∨ _))

/-- Bytes conform to some ranges if the first byte falls into the first range, and so on. -/
theorem conforming_cons_iff {range : ByteRange} {ranges : List ByteRange} {byte : UInt8}
    {rest : Bytes} :
    conforming (range :: ranges) (byte :: rest) = (range :: ranges).length ↔
      (range.1 ≤ byte ∧ byte ≤ range.2) ∧ conforming ranges rest = ranges.length := by
  -- A byte outside of its range ends the count too early.
  rw [conforming, List.length_cons]
  by_cases inside : range.1 ≤ byte ∧ byte ≤ range.2
  · rw [if_pos inside, Nat.add_right_cancel_iff]
    simp only [inside, and_self, true_and]
  · rw [if_neg inside]
    simp only [inside, false_and, iff_false]
    omega

private theorem mem_anyTail_iff {byte : UInt8} :
    anyTail.1 ≤ byte ∧ byte ≤ anyTail.2 ↔ continues byte = true := by
  -- Both say that the byte has the two marking bits of a continuation byte.
  rw [continues_iff, anyTail, UInt8.le_iff_toNat_le, UInt8.le_iff_toNat_le]
  simp only [UInt8.reduceToNat]
  omega

/--
Continuation bytes are read up to an acceptable value exactly where enough of them stand.

Whether a value is acceptable has to be settled by the bits that they do not carry.
-/
theorem exists_extend_iff {tails payload : Nat} {view : Bytes} {accepts : Nat → Prop} {good : Prop}
    (settled : ∀ value, highBits tails value = payload → (accepts value ↔ good)) :
    (∃ value, extend tails payload view = some value ∧ accepts value) ↔
      good ∧ conforming (List.replicate tails anyTail) view = tails := by
  -- Each continuation byte moves six more bits to the settled ones.
  induction tails generalizing payload view with
  | zero =>
    simp only [extend, Option.some.injEq, exists_eq_left', List.replicate_zero, conforming,
      and_true]
    exact settled payload rfl
  | succ tails ih =>
    cases view with
    | nil => simp [extend, List.replicate_succ, conforming]
    | cons byte rest =>
      have counted :
          conforming (anyTail :: List.replicate tails anyTail) (byte :: rest) = tails + 1 ↔
            continues byte = true ∧ conforming (List.replicate tails anyTail) rest = tails := by
        rw [← mem_anyTail_iff]
        simpa using @conforming_cons_iff anyTail (List.replicate tails anyTail) byte rest
      rw [List.replicate_succ, counted, extend]
      by_cases marked : continues byte = true
      · obtain ⟨lower, upper⟩ := continues_iff.mp marked
        have further : ∀ value, highBits tails value = payload * 64 + (byte.toNat - 0x80) →
            (accepts value ↔ good) := by
          intro value high
          apply settled
          rw [highBits]
          omega
        rw [if_pos marked, ih further]
        simp only [marked, true_and]
      · rw [if_neg marked]
        simp [marked]

/-- A form of several bytes decodes where its bytes carry a value that the form is meant for. -/
theorem isSome_scalar?_of_lead {first : UInt8} {lead : Lead} (leads : Lead.of? first = some lead)
    (rest : Bytes) :
    (scalar? (first :: rest)).isSome = true ↔
      ∃ value, extend lead.tails lead.payload rest = some value ∧
        (lead.least ≤ value ∧ value.isValidChar) := by
  -- The value is read first and then held against the bounds of the form.
  rw [scalar?, if_neg (Lead.not_ascii leads), leads]
  simp only [Option.bind_eq_bind, Option.bind_some]
  cases extended : extend lead.tails lead.payload rest with
  | none => simp
  | some value =>
    simp only [Option.bind_some, Option.some.injEq, exists_eq_left']
    split
    · rename_i accepted
      simp [accepted]
    · rename_i refused
      simp [refused]

/-- A form of several bytes decodes if the next byte keeps the value acceptable. -/
private theorem isSome_scalar?_of_ranges {first : UInt8} {lead : Lead} {range : ByteRange}
    {tails : Nat} (leads : Lead.of? first = some lead) (counted : lead.tails = tails + 1)
    (ranges : tailRanges first = range :: List.replicate tails anyTail)
    (settled : ∀ byte value, highBits tails value = lead.payload * 64 + (byte.toNat - 0x80) →
      continues byte = true →
      (lead.least ≤ value ∧ value.isValidChar ↔
        range.1.toNat ≤ byte.toNat ∧ byte.toNat ≤ range.2.toNat))
    (within : 0x80 ≤ range.1.toNat ∧ range.2.toNat < 0xC0) (rest : Bytes) :
    (scalar? (first :: rest)).isSome = true ↔ BeginsRune first rest := by
  -- The first two bytes settle whether the value is acceptable, the others only have to be there.
  rw [isSome_scalar?_of_lead leads, counted, BeginsRune, ranges]
  have beyond := Lead.not_ascii leads
  cases rest with
  | nil => simp [extend, conforming, beyond]
  | cons byte rest =>
    have marked : range.1 ≤ byte ∧ byte ≤ range.2 → continues byte = true := by
      rw [continues_iff, UInt8.le_iff_toNat_le, UInt8.le_iff_toNat_le]
      omega
    rw [conforming_cons_iff, extend]
    by_cases tail : continues byte = true
    · rw [if_pos tail, exists_extend_iff fun value high => settled byte value high tail]
      simp [beyond, UInt8.le_iff_toNat_le]
    · have outside : ¬ (range.1 ≤ byte ∧ byte ≤ range.2) := fun inside => tail (marked inside)
      rw [if_neg tail]
      simp [beyond, outside]

/-- A form of several bytes for which no ranges are set never carries an acceptable value. -/
private theorem isSome_scalar?_of_no_ranges {first : UInt8} {lead : Lead}
    (leads : Lead.of? first = some lead) (ranges : tailRanges first = [])
    (refused : ∀ value, highBits lead.tails value = lead.payload →
      ¬ (lead.least ≤ value ∧ value.isValidChar)) (rest : Bytes) :
    (scalar? (first :: rest)).isSome = true ↔ BeginsRune first rest := by
  -- The first byte alone makes the value too small or too large.
  have settled : ∀ value, highBits lead.tails value = lead.payload →
      (lead.least ≤ value ∧ value.isValidChar ↔ False) := by
    intro value high
    simp [refused value high]
  rw [isSome_scalar?_of_lead leads, BeginsRune, ranges, exists_extend_iff settled]
  simp [Lead.not_ascii leads]

private theorem tailRanges_eq (first : UInt8) : tailRanges first =
    if first.toNat < 0xC2 then []
    else if first.toNat < 0xE0 then [anyTail]
    else if first.toNat = 0xE0 then [(0xA0, 0xBF), anyTail]
    else if first.toNat = 0xED then [(0x80, 0x9F), anyTail]
    else if first.toNat < 0xF0 then [anyTail, anyTail]
    else if first.toNat = 0xF0 then [(0x90, 0xBF), anyTail, anyTail]
    else if first.toNat < 0xF4 then [anyTail, anyTail, anyTail]
    else if first.toNat = 0xF4 then [(0x80, 0x8F), anyTail, anyTail]
    else [] := by
  -- Bytes are compared by their values.
  simp only [tailRanges, UInt8.lt_iff_toNat_lt, ← UInt8.toNat_inj, UInt8.reduceToNat]

private theorem isSome_scalar?_of_two {first : UInt8} (lower : 0xC2 ≤ first.toNat)
    (upper : first.toNat < 0xE0) (ranges : tailRanges first = [anyTail]) (rest : Bytes) :
    (scalar? (first :: rest)).isSome = true ↔ BeginsRune first rest := by
  -- The first byte is large enough for the value not to have a shorter form.
  have leads : Lead.of? first = some ⟨first.toNat - 0xC0, 1, 0x80⟩ := by
    rw [Lead.of?_eq_some_iff]
    left
    refine ⟨?_, ?_, rfl, rfl⟩ <;> simp only <;> omega
  refine isSome_scalar?_of_ranges leads rfl ranges ?_ (by decide) rest
  intro byte value high tail
  simp only [continues_iff, highBits, anyTail, Nat.isValidChar, UInt8.reduceToNat] at tail high ⊢
  omega

private theorem isSome_scalar?_of_three {first : UInt8} {range : ByteRange}
    (lower : 0xE0 ≤ first.toNat) (upper : first.toNat < 0xF0)
    (ranges : tailRanges first = [range, anyTail])
    (least : range.1.toNat = if first.toNat = 0xE0 then 0xA0 else 0x80)
    (greatest : range.2.toNat = if first.toNat = 0xED then 0x9F else 0xBF) (rest : Bytes) :
    (scalar? (first :: rest)).isSome = true ↔ BeginsRune first rest := by
  -- The second byte keeps out values with a shorter form after E0, and surrogates after ED.
  have leads : Lead.of? first = some ⟨first.toNat - 0xE0, 2, 0x800⟩ := by
    rw [Lead.of?_eq_some_iff]
    right; left
    refine ⟨?_, ?_, rfl, rfl⟩ <;> simp only <;> omega
  refine isSome_scalar?_of_ranges leads rfl ranges ?_ ?_ rest
  · intro byte value high tail
    rw [least, greatest]
    simp only [continues_iff, highBits, Nat.isValidChar] at tail high ⊢
    split <;> split <;> omega
  · rw [least, greatest]
    split <;> split <;> omega

private theorem isSome_scalar?_of_four {first : UInt8} {range : ByteRange}
    (lower : 0xF0 ≤ first.toNat) (upper : first.toNat ≤ 0xF4)
    (ranges : tailRanges first = [range, anyTail, anyTail])
    (least : range.1.toNat = if first.toNat = 0xF0 then 0x90 else 0x80)
    (greatest : range.2.toNat = if first.toNat = 0xF4 then 0x8F else 0xBF) (rest : Bytes) :
    (scalar? (first :: rest)).isSome = true ↔ BeginsRune first rest := by
  -- The second byte keeps out values with a shorter form after F0, and too large ones after F4.
  have leads : Lead.of? first = some ⟨first.toNat - 0xF0, 3, 0x10000⟩ := by
    rw [Lead.of?_eq_some_iff]
    right; right
    refine ⟨?_, ?_, rfl, rfl⟩ <;> simp only <;> omega
  refine isSome_scalar?_of_ranges leads rfl ranges ?_ ?_ rest
  · intro byte value high tail
    rw [least, greatest]
    simp only [continues_iff, highBits, Nat.isValidChar] at tail high ⊢
    split <;> split <;> omega
  · rw [least, greatest]
    split <;> split <;> omega

private theorem isSome_scalar?_of_none {first : UInt8} (beyond : ¬ first < 0x80)
    (outside : first.toNat < 0xC2 ∨ 0xF4 < first.toNat) (ranges : tailRanges first = [])
    (rest : Bytes) : (scalar? (first :: rest)).isSome = true ↔ BeginsRune first rest := by
  -- Such a byte leads no form, or it carries too few bits for its form, or too many.
  cases leads : Lead.of? first with
  | none => simp [scalar?, BeginsRune, beyond, leads, ranges]
  | some lead =>
    refine isSome_scalar?_of_no_ranges leads ranges ?_ rest
    intro value high accepted
    rcases Lead.of?_eq_some_iff.mp leads with
      ⟨byte, bound, tails, least⟩ | ⟨byte, bound, tails, least⟩ | ⟨byte, bound, tails, least⟩ <;>
    · rw [tails] at high
      rw [least] at accepted
      simp only [highBits, Nat.isValidChar] at high accepted
      omega

/-- Bytes are decoded exactly where they conform to the ranges of a well-formed rune. -/
theorem isSome_scalar?_iff (first : UInt8) (rest : Bytes) :
    (scalar? (first :: rest)).isSome = true ↔ BeginsRune first rest := by
  -- The cases are the rows of the table of ranges.
  by_cases ascii : first < 0x80
  · simp [scalar?, BeginsRune, ascii]
  have ranges := tailRanges_eq first
  split at ranges
  · exact isSome_scalar?_of_none ascii (by omega) ranges rest
  split at ranges
  · exact isSome_scalar?_of_two (by omega) (by omega) ranges rest
  split at ranges
  · rename_i lead
    exact isSome_scalar?_of_three (by omega) (by omega) ranges (by simp [lead]) (by simp [lead])
      rest
  split at ranges
  · rename_i lead
    exact isSome_scalar?_of_three (by omega) (by omega) ranges (by simp [lead]) (by simp [lead])
      rest
  split at ranges
  · rename_i other surrogates below
    exact isSome_scalar?_of_three (by omega) below ranges (by simp [other, anyTail])
      (by simp [surrogates, anyTail]) rest
  split at ranges
  · rename_i lead
    exact isSome_scalar?_of_four (by omega) (by omega) ranges (by simp [lead]) (by simp [lead]) rest
  split at ranges
  · rename_i other below
    exact isSome_scalar?_of_four (by omega) (by omega) ranges (by simp [other, anyTail])
      (by simp [Nat.ne_of_lt below, anyTail]) rest
  split at ranges
  · rename_i lead
    exact isSome_scalar?_of_four (by omega) (by omega) ranges (by simp [lead]) (by simp [lead]) rest
  · exact isSome_scalar?_of_none ascii (by omega) ranges rest

/-- A rune stands encoded at the front of bytes exactly where they conform to its ranges. -/
theorem exists_encodeRune_prefix_iff (first : UInt8) (rest : Bytes) :
    (∃ rune, encodeRune rune <+: first :: rest) ↔ BeginsRune first rest := by
  -- Decoding succeeds on encodings only.
  rw [← isSome_scalar?_iff, Option.isSome_iff_exists]
  exact exists_congr fun rune => scalar?_eq_some_iff.symm

/--
Reading is the decoding of one rune, and of nothing but runes.

A rune that stands encoded at the front is read whatever follows it. Where none does, because the
bytes break the ranges of well-formed runes, one byte is taken for a replacement.
-/
theorem read_exact :
    (∀ rune rest, read (encodeRune rune ++ rest) = ⟨rune, rune.utf8Size⟩) ∧
      (∀ view rune, encodeRune rune <+: view → read view = ⟨rune, rune.utf8Size⟩) ∧
      (∀ view, view ≠ [] → (∀ rune, ¬ encodeRune rune <+: view) → read view = ⟨replacement, 1⟩) ∧
      (∀ first rest, (∃ rune, encodeRune rune <+: first :: rest) ↔ BeginsRune first rest) ∧
      ∀ view, ((read view).width = 0 ↔ view = []) ∧ (read view).width ≤ view.length := by
  -- The decoder succeeds on a rune that stands encoded at the front, and on nothing else.
  refine ⟨read_encodeRune_append, fun _ _ => read_of_encodeRune_prefix,
    fun _ => read_of_no_encodeRune, exists_encodeRune_prefix_iff, ?_⟩
  intro view
  exact ⟨read_width_eq_zero_iff, read_width_le view⟩

/-- A surrogate is read byte by byte, although its bytes have the form of three-byte runes. -/
theorem read_surrogate : read [0xED, 0xA0, 0x80] = ⟨replacement, 1⟩ := by
  -- Behind this first byte, the second one is out of range.
  refine read_exact.2.2.1 _ (by simp) ?_
  intro rune encoded
  have begins := (read_exact.2.2.2.1 0xED [0xA0, 0x80]).mp ⟨rune, encoded⟩
  revert begins
  decide

end RuneScan.Utf8
