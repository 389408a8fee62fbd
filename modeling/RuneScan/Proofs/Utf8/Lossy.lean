import RuneScan.Proofs.Utf8.Cut
import RuneScan.Utf8.Lossy

/-! What is shown for bytes is what is read from them, with fewer replacements. -/

namespace RuneScan.Utf8

/-- A rune that stands encoded at the front is shown as itself. -/
theorem lossyRunes_encodeRune_append (rune : Char) (rest : Bytes) :
    lossyRunes (encodeRune rune ++ rest) = rune :: lossyRunes rest := by
  -- The rune is decoded, and the rest begins behind its tail.
  obtain ⟨first, tail, encoded, _⟩ := exists_encodeRune_eq_cons rune
  have width := encodeRune_length rune
  rw [encoded, List.length_cons] at width
  have decoded : scalar? (first :: (tail ++ rest)) = some rune := by
    rw [scalar?_eq_some_iff, encoded]
    exact List.prefix_append (first :: tail) rest
  have behind : rune.utf8Size - 1 = tail.length := by omega
  rw [encoded, List.cons_append, lossyRunes, decoded]
  simp only [behind, List.drop_left]

/-- The bytes of a text are shown as that text. -/
@[simp] theorem lossy_encode (text : String) : lossy (encode text) = text := by
  -- One rune is shown after another.
  have runes : lossyRunes (encode text) = text.toList := by
    rw [encode]
    induction text.toList with
    | nil => simp [lossyRunes]
    | cons rune rest ih => rw [List.flatMap_cons, lossyRunes_encodeRune_append, ih]
  rw [lossy, runes, String.ofList_toList]

/-- The bytes that follow a lead byte in a well-formed rune are continuation bytes. -/
theorem tailRanges_within (lead : UInt8) :
    ∀ range ∈ tailRanges lead, 0x80 ≤ range.1 ∧ range.2 ≤ 0xBF := by
  -- No row of the table has a range that is wider.
  rw [tailRanges]
  repeat' split
  all_goals simp [anyTail]

/-- Bytes that conform to the ranges of a well-formed rune are continuation bytes. -/
theorem continues_of_conforming {ranges : List ByteRange} {rest : Bytes}
    (within : ∀ range ∈ ranges, 0x80 ≤ range.1 ∧ range.2 ≤ 0xBF) :
    ∀ byte ∈ rest.take (conforming ranges rest), continues byte = true := by
  -- The count goes on only as long as the bytes fall into their ranges.
  induction ranges, rest using conforming.induct with
  | case1 least greatest ranges byte rest inside ih =>
    rw [List.forall_mem_cons] at within
    rw [conforming, if_pos inside, List.take_succ_cons, List.forall_mem_cons]
    refine ⟨?_, ih within.2⟩
    have lower := UInt8.le_trans within.1.1 inside.1
    have upper := UInt8.le_trans inside.2 within.1.2
    simp only [UInt8.le_iff_toNat_le, UInt8.reduceToNat] at lower upper
    rw [continues_iff]
    omega
  | case2 least greatest ranges byte rest outside =>
    rw [conforming, if_neg outside, List.take_zero]
    exact List.forall_mem_nil _
  | case3 ranges rest bare =>
    have nothing : conforming ranges rest = 0 := by
      rw [conforming]
      exact bare
    rw [nothing, List.take_zero]
    exact List.forall_mem_nil _

/-- Where no rune begins, one replacement is shown for the first byte and the tails behind it. -/
theorem lossyRunes_of_malformed {first : UInt8} {rest : Bytes}
    (malformed : scalar? (first :: rest) = none) :
    lossyRunes (first :: rest) =
      replacement :: lossyRunes (rest.drop (conforming (tailRanges first) rest)) := by
  -- It is the second case of the definition.
  rw [lossyRunes, malformed]

/-- Where no rune begins, each of these bytes is read as a replacement of its own. -/
theorem runes_of_malformed {first : UInt8} {rest : Bytes}
    (malformed : scalar? (first :: rest) = none) :
    ∃ more, runes (first :: rest) = replacement :: (List.replicate more replacement ++
      runes (rest.drop (conforming (tailRanges first) rest))) := by
  have tails := @continues_of_conforming _ rest (tailRanges_within first)
  refine ⟨(rest.take (conforming (tailRanges first) rest)).length, ?_⟩
  rw [← runes_append_of_tails tails, List.take_append_drop,
    runes_of_ne_nil (List.cons_ne_nil first rest), read_of_malformed malformed,
    List.drop_succ_cons, List.drop_zero]

/-- What is shown is what is read, but for replacements that are left out. -/
theorem lossyRunes_sublist_runes (view : Bytes) :
    (lossyRunes view).Sublist (runes view) ∧
      (lossyRunes view).filter (· != replacement) = (runes view).filter (· != replacement) := by
  -- The induction follows what is shown, which falls into step with reading behind each part.
  induction view using lossyRunes.induct with
  | case1 => simp [lossyRunes]
  | case2 first rest rune decoded ih =>
    obtain ⟨after, whole⟩ := encodeRune_prefix_of_scalar? decoded
    have behind : rest.drop (rune.utf8Size - 1) = after := by
      have width := encodeRune_length rune
      obtain ⟨lead, tail, encoded, _⟩ := exists_encodeRune_eq_cons rune
      rw [encoded, List.cons_append, List.cons.injEq] at whole
      rw [encoded, List.length_cons] at width
      rw [← whole.2, ← width, Nat.add_sub_cancel, List.drop_left]
    rw [behind] at ih
    rw [← whole, lossyRunes_encodeRune_append, runes_encodeRune_append]
    refine ⟨ih.1.cons_cons rune, ?_⟩
    rw [List.filter_cons, List.filter_cons, ih.2]
  | case3 first rest malformed ih =>
    obtain ⟨more, whole⟩ := runes_of_malformed malformed
    rw [lossyRunes_of_malformed malformed, whole]
    refine ⟨(ih.1.trans (List.sublist_append_right ..)).cons_cons replacement, ?_⟩
    simp [ih.2]

end RuneScan.Utf8
