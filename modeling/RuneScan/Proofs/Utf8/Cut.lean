import RuneScan.Proofs.Utf8.Reading

/-! What is read where bytes are cut off, be it between two readings or inside of one. -/

namespace RuneScan.Utf8

/-- No rune begins with a continuation byte. -/
theorem scalar?_of_continues {first : UInt8} (tail : continues first = true) (rest : Bytes) :
    scalar? (first :: rest) = none := by
  -- The first byte of an encoded rune is none.
  cases decoded : scalar? (first :: rest) with
  | none => rfl
  | some rune =>
    obtain ⟨lead, others, encoded, begins, _⟩ := exists_encodeRune_eq_cons rune
    have standing := scalar?_eq_some_iff.mp decoded
    rw [encoded, List.cons_prefix_cons] at standing
    rw [standing.1, tail] at begins
    contradiction

/-- Where no rune begins, the first byte alone is read as a replacement. -/
theorem read_of_malformed {first : UInt8} {rest : Bytes}
    (malformed : scalar? (first :: rest) = none) : read (first :: rest) = ⟨replacement, 1⟩ := by
  -- There is a byte to take.
  rw [read, malformed]
  simp

/-- What is decoded before bytes are cut off behind it is decoded all the same. -/
theorem scalar?_take_iff {view : Bytes} {count : Nat} {rune : Char} :
    scalar? (view.take count) = some rune ↔ scalar? view = some rune ∧ rune.utf8Size ≤ count := by
  -- The encoding has to lie before the cut.
  rw [scalar?_eq_some_iff, scalar?_eq_some_iff, List.prefix_take_iff, encodeRune_length]

/-- Continuation bytes in front of a view are read as one replacement each. -/
theorem runes_append_of_tails {tails : Bytes} (continuing : ∀ byte ∈ tails, continues byte = true)
    (rest : Bytes) :
    runes (tails ++ rest) = List.replicate tails.length replacement ++ runes rest := by
  -- Each byte is a reading by itself.
  induction tails with
  | nil => rfl
  | cons first tails ih =>
    rw [List.forall_mem_cons] at continuing
    rw [List.cons_append, runes_of_ne_nil (List.cons_ne_nil first _),
      read_of_malformed (scalar?_of_continues continuing.1 _), List.drop_succ_cons, List.drop_zero,
      ih continuing.2, List.length_cons, List.replicate_succ, List.cons_append]

/-- Continuation bytes with no rune in front are read as one replacement each. -/
theorem runes_of_tails {view : Bytes} (tails : ∀ byte ∈ view, continues byte = true) :
    runes view = List.replicate view.length replacement := by
  -- Nothing follows them.
  have whole := runes_append_of_tails tails []
  rwa [List.append_nil, runes_nil, List.append_nil] at whole

/-- A rune that is cut off is read as one replacement for each byte that is left of it. -/
theorem runes_take_inside {view : Bytes} {count : Nat} (further : 0 < count)
    (inside : count < (read view).width) :
    runes (view.take count) = List.replicate count replacement := by
  obtain ⟨first, tail, after, whole, width, _, continuing⟩ :=
    exists_tail_of_wide (Nat.lt_of_le_of_lt further inside)
  obtain ⟨more, rfl⟩ : ∃ more, count = more + 1 := ⟨count - 1, by omega⟩
  -- The first byte would be read as the whole rune, of which too little is left.
  have malformed : scalar? (view.take (more + 1)) = none := by
    rw [Option.eq_none_iff_forall_ne_some]
    intro other decoded
    obtain ⟨standing, short⟩ := scalar?_take_iff.mp decoded
    rw [read, standing] at inside
    simp only at inside
    omega
  have cut : view.take (more + 1) = first :: tail.take more := by
    rw [whole, List.take_succ_cons, List.take_append_of_le_length (by omega)]
  -- Behind it there are tails only.
  have rest : runes (tail.take more) = List.replicate more replacement := by
    rw [runes_of_tails fun byte member => continuing byte (List.mem_of_mem_take member),
      List.length_take, Nat.min_eq_left (by omega)]
  rw [cut] at malformed ⊢
  rw [runes_of_ne_nil (List.cons_ne_nil first _), read_of_malformed malformed,
    List.drop_succ_cons, List.drop_zero, rest, List.replicate_succ]

/-- A stretch inside of a rune consists of continuation bytes. -/
theorem continues_of_mem_inside {view : Bytes} {place count : Nat} (behind : 0 < place)
    (inside : place + count ≤ (read view).width) :
    ∀ byte ∈ (view.drop place).take count, continues byte = true := by
  intro byte member
  -- Bytes are left in the stretch only if the reading has an inside.
  have filled : 0 < count := by
    rw [Nat.pos_iff_ne_zero]
    rintro rfl
    contradiction
  obtain ⟨first, tail, after, whole, width, _, continuing⟩ :=
    exists_tail_of_wide (by omega : 1 < (read view).width)
  obtain ⟨offset, rfl⟩ : ∃ offset, place = offset + 1 := ⟨place - 1, by omega⟩
  have within : count ≤ (tail.drop offset).length := by
    rw [List.length_drop]
    omega
  rw [whole, List.drop_succ_cons, List.drop_append_of_le_length (by omega),
    List.take_append_of_le_length within] at member
  exact continuing byte (List.mem_of_mem_drop (List.mem_of_mem_take member))

/-- Cutting bytes off behind the first reading leaves it as it is. -/
theorem read_take {view : Bytes} {count : Nat} (fits : (read view).width ≤ count) :
    read (view.take count) = read view := by
  -- A rune that fits is decoded as before, and a byte that begins none is still the first one.
  cases decoded : scalar? view with
  | some rune =>
    rw [read, decoded] at fits
    rw [read, read, scalar?_take_iff.mpr ⟨decoded, fits⟩, decoded]
  | none =>
    have malformed : scalar? (view.take count) = none := by
      rw [Option.eq_none_iff_forall_ne_some]
      intro rune taken
      rw [(scalar?_take_iff.mp taken).1] at decoded
      contradiction
    rw [read, decoded] at fits
    simp only at fits
    rw [read, read, malformed, decoded, List.length_take]
    simp only [Reading.mk.injEq, true_and]
    omega

end RuneScan.Utf8
