import RuneScan.Proofs.Utf8.Decoding

/-! What one reading takes up, and the runes that readings in a row give. -/

namespace RuneScan.Utf8

/-- The encoding of a rune is a first byte that begins no tail, and continuation bytes. -/
theorem exists_encodeRune_eq_cons (rune : Char) :
    ∃ first tail, encodeRune rune = first :: tail ∧ continues first = false ∧
      ∀ byte ∈ tail, continues byte = true := by
  -- ASCII has no tail, and the bits of all other forms are carried by continuation bytes.
  by_cases ascii : rune.toNat < 0x80
  · refine ⟨UInt8.ofNat rune.toNat, [], encodeRune_ascii ascii, ?_, by simp⟩
    rw [Bool.eq_false_iff, ne_eq, continues_iff, UInt8.toNat_ofNat']
    omega
  · obtain ⟨first, lead, leads, _, _, encoded⟩ := exists_lead (Nat.le_of_not_lt ascii)
    refine ⟨first, _, encoded, ?_, fun byte member => continues_of_mem_tailBytes member⟩
    rw [Bool.eq_false_iff, ne_eq, continues_iff]
    rcases Lead.of?_eq_some_iff.mp leads with form | form | form <;> omega

/-- A rune that stands encoded at the front of a view is read from it. -/
@[simp] theorem read_encodeRune_append (rune : Char) (rest : Bytes) :
    read (encodeRune rune ++ rest) = ⟨rune, rune.utf8Size⟩ := by
  -- Decoding the front of the view succeeds with that rune.
  rw [read, scalar?_of_encodeRune_prefix (List.prefix_append ..)]

/-- What stands encoded at the front of a view is what is read from it. -/
theorem read_of_encodeRune_prefix {view : Bytes} {rune : Char}
    (encoded : encodeRune rune <+: view) : read view = ⟨rune, rune.utf8Size⟩ := by
  -- It makes no difference what stands behind it.
  obtain ⟨rest, rfl⟩ := encoded
  exact read_encodeRune_append rune rest

/-- A view either begins with an encoded rune, which is read, or loses one byte to a replacement. -/
theorem read_cases (view : Bytes) :
    (∃ rune rest, view = encodeRune rune ++ rest ∧ read view = ⟨rune, rune.utf8Size⟩) ∨
      (scalar? view = none ∧ read view = ⟨replacement, min 1 view.length⟩) := by
  -- The two cases are those of the decoder.
  rw [read]
  cases decoded : scalar? view with
  | some rune =>
    obtain ⟨rest, whole⟩ := encodeRune_prefix_of_scalar? decoded
    exact Or.inl ⟨rune, rest, whole.symm, rfl⟩
  | none => exact Or.inr ⟨rfl, rfl⟩

/-- Nothing is read in an empty view. -/
@[simp] theorem read_nil : read [] = ⟨replacement, 0⟩ := rfl

/-- An ASCII byte is read as the rune of its value. -/
theorem read_ascii {first : UInt8} (ascii : first < 0x80) (rest : Bytes) :
    read (first :: rest) = ⟨Char.ofNat first.toNat, 1⟩ := by
  -- The byte is the whole encoding of that rune.
  simp only [UInt8.lt_iff_toNat_lt, UInt8.reduceToNat] at ascii
  have number : (Char.ofNat first.toNat).toNat = first.toNat := toNat_ofNat (Or.inl (by omega))
  have encoded : encodeRune (Char.ofNat first.toNat) = [first] := by
    rw [encodeRune_ascii (by omega), number, UInt8.ofNat_toNat]
  have width := encodeRune_length (Char.ofNat first.toNat)
  rw [encoded, List.length_singleton] at width
  have whole := read_encodeRune_append (Char.ofNat first.toNat) rest
  rw [encoded, ← width] at whole
  exact whole

/-- A byte beyond ASCII is never read as an ASCII rune. -/
theorem read_beyond_ascii {first : UInt8} (beyond : ¬ first < 0x80) (rest : Bytes) :
    0x80 ≤ (read (first :: rest)).rune.toNat := by
  -- An ASCII rune is encoded as an ASCII byte, and the replacement is no ASCII rune.
  rcases read_cases (first :: rest) with ⟨rune, after, whole, reads⟩ | ⟨_, reads⟩
  · rw [reads]
    simp only [UInt8.lt_iff_toNat_lt, UInt8.reduceToNat] at beyond
    apply Nat.le_of_not_lt
    intro ascii
    simp only at ascii
    rw [encodeRune_ascii (by omega), List.singleton_append, List.cons.injEq] at whole
    rw [whole.1, UInt8.toNat_ofNat'] at beyond
    omega
  · rw [reads]
    show 0x80 ≤ replacement.toNat
    decide

/-- A byte beyond ASCII that is read by itself is read as a replacement. -/
theorem rune_of_narrow {first : UInt8} {rest : Bytes} (beyond : ¬ first < 0x80)
    (narrow : (read (first :: rest)).width ≤ 1) : (read (first :: rest)).rune = replacement := by
  -- Only ASCII runes are encoded as a single byte.
  have high := read_beyond_ascii beyond rest
  rcases read_cases (first :: rest) with ⟨rune, _, _, reads⟩ | ⟨_, reads⟩
  · rw [reads] at narrow high
    have single : rune.utf8Size = 1 := Nat.le_antisymm narrow (Char.utf8Size_pos rune)
    have below := UInt32.le_iff_toNat_le.mp (Char.utf8Size_eq_one_iff.mp single)
    exact absurd high (Nat.not_le_of_lt (Nat.lt_succ_of_le below))
  · rw [reads]

/-- A reading never takes up more than there is. -/
theorem read_width_le (view : Bytes) : (read view).width ≤ view.length := by
  -- The bytes of an encoded rune stand in the view, and a replacement takes up at most one.
  rcases read_cases view with ⟨rune, rest, whole, reads⟩ | ⟨_, reads⟩
  · rw [reads, whole, List.length_append, encodeRune_length]
    exact Nat.le_add_right ..
  · rw [reads]
    exact Nat.min_le_right ..

/-- Only a view with nothing in it is read without taking up a byte. -/
theorem read_width_eq_zero_iff {view : Bytes} : (read view).width = 0 ↔ view = [] := by
  -- Every other view gives up at least its first byte.
  cases view with
  | nil => simp
  | cons first rest =>
    have taken := read_width_pos first rest
    simp only [reduceCtorEq, iff_false]
    omega

/-- The replacement is three bytes wide, although a bad byte that is read as one is not. -/
theorem utf8Size_replacement : replacement.utf8Size = 3 := by decide

/-- The rune read takes up its own width exactly where a rune stands encoded at the front. -/
theorem utf8Size_read_eq_width_iff {view : Bytes} :
    (read view).rune.utf8Size = (read view).width ↔ ∃ rune, encodeRune rune <+: view := by
  rcases read_cases view with ⟨rune, rest, whole, reads⟩ | ⟨malformed, reads⟩
  · rw [reads, whole]
    exact ⟨fun _ => ⟨rune, List.prefix_append ..⟩, fun _ => rfl⟩
  · -- A replacement takes up one byte at most, which is less than its own width.
    rw [reads]
    constructor
    · intro same
      simp only [utf8Size_replacement] at same
      omega
    · rintro ⟨rune, encoded⟩
      have decoded := scalar?_of_encodeRune_prefix encoded
      rw [malformed] at decoded
      contradiction

/-- One byte is read where something is left, but no rune stands encoded. -/
theorem read_of_no_encodeRune {view : Bytes} (filled : view ≠ [])
    (malformed : ∀ rune, ¬ encodeRune rune <+: view) : read view = ⟨replacement, 1⟩ := by
  -- The other case is that of a rune in front.
  rcases read_cases view with ⟨rune, rest, whole, _⟩ | ⟨_, reads⟩
  · exact absurd ⟨rest, whole.symm⟩ (malformed rune)
  · rw [reads, Nat.min_eq_left (List.length_pos_iff.mpr filled)]

/-- Where several bytes are read as one rune, its first byte and its tail stand in front. -/
theorem exists_tail_of_wide {view : Bytes} (wide : 1 < (read view).width) :
    ∃ first tail after, view = first :: (tail ++ after) ∧ (read view).width = tail.length + 1 ∧
      continues first = false ∧ ∀ byte ∈ tail, continues byte = true := by
  -- A replacement takes up one byte at most, so the reading is an encoded rune with its tail.
  rcases read_cases view with ⟨rune, after, whole, reads⟩ | ⟨_, reads⟩
  · obtain ⟨first, tail, encoded, begins, continuing⟩ := exists_encodeRune_eq_cons rune
    have width := encodeRune_length rune
    rw [encoded, List.length_cons] at width
    refine ⟨first, tail, after, ?_, ?_, begins, continuing⟩
    · rw [whole, encoded, List.cons_append]
    · rw [reads, width]
  · rw [reads] at wide
    simp only at wide
    omega

/-- Inside a reading, behind its first byte, there are continuation bytes only. -/
theorem continues_inside {view : Bytes} {place : Nat} (behind : 0 < place)
    (inside : place < (read view).width) :
    ∃ byte rest, view.drop place = byte :: rest ∧ continues byte = true := by
  -- What has an inside is a rune with its tail.
  obtain ⟨first, tail, after, whole, width, _, continuing⟩ :=
    exists_tail_of_wide (Nat.lt_of_le_of_lt behind inside)
  obtain ⟨offset, rfl⟩ : ∃ offset, place = offset + 1 := ⟨place - 1, by omega⟩
  have within : offset < tail.length := by omega
  refine ⟨tail[offset], tail.drop (offset + 1) ++ after, ?_, ?_⟩
  · rw [whole, List.drop_succ_cons, List.drop_append_of_le_length (Nat.le_of_lt within),
      List.drop_eq_getElem_cons within, List.cons_append]
  · exact continuing _ (List.getElem_mem within)

/-- Nothing at all gives no runes. -/
@[simp] theorem runes_nil : runes [] = [] := by
  -- There is nothing to read.
  rw [runes]

/-- The runes of a view that holds something are the first one read, and those after it. -/
theorem runes_of_ne_nil {view : Bytes} (nonempty : view ≠ []) :
    runes view = (read view).rune :: runes (view.drop (read view).width) := by
  -- The definition goes on behind the first reading.
  cases view with
  | nil => contradiction
  | cons first rest => rw [runes]

/-- A view has at most as many runes as bytes. -/
theorem length_runes_le (view : Bytes) : (runes view).length ≤ view.length := by
  -- Each reading takes up at least one of the bytes.
  fun_induction runes view with
  | case1 => exact Nat.le_refl _
  | case2 first rest ih =>
    have fewer := length_drop_read_lt first rest
    rw [List.length_cons]
    omega

/-- The bytes of an ASCII view are its runes. -/
theorem runes_of_isAscii {view : Bytes} (ascii : Bytes.isAscii view = true) :
    runes view = view.map fun byte => Char.ofNat byte.toNat := by
  -- Each byte is read by itself.
  induction view with
  | nil => rw [runes_nil, List.map_nil]
  | cons first rest ih =>
    rw [Bytes.isAscii_cons_iff] at ascii
    rw [runes_of_ne_nil (List.cons_ne_nil first rest), read_ascii ascii.1, List.drop_succ_cons,
      List.drop_zero, ih ascii.2, List.map_cons]

/-- An encoded rune at the front of a view is the first of its runes. -/
theorem runes_encodeRune_append (rune : Char) (rest : Bytes) :
    runes (encodeRune rune ++ rest) = rune :: runes rest := by
  -- The reading takes up the encoding and nothing else.
  have nonempty : encodeRune rune ++ rest ≠ [] := by
    obtain ⟨first, tail, encoded, _⟩ := exists_encodeRune_eq_cons rune
    simp [encoded]
  rw [runes_of_ne_nil nonempty, read_encodeRune_append, ← encodeRune_length, List.drop_left]

/-- The runes of an encoded text are those of the text. -/
@[simp] theorem runes_encode (text : String) : runes (encode text) = text.toList := by
  -- One rune is read after another, in the order in which they were written down.
  rw [encode]
  induction text.toList with
  | nil => simp
  | cons rune rest ih => rw [List.flatMap_cons, runes_encodeRune_append, ih]

end RuneScan.Utf8
