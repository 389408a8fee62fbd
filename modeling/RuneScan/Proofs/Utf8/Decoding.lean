import RuneScan.Utf8.Encode
import RuneScan.Utf8.Reading

/-! Decoding undoes encoding, and it succeeds on nothing else. -/

namespace RuneScan.Utf8

/-- What is left of a value when each of some continuation bytes has taken six bits from it. -/
def highBits : Nat → Nat → Nat
  | 0, value => value
  -- The bits are taken from below.
  | tails + 1, value => highBits tails value / 64

/-- The continuation bytes that carry the low bits of a value, six bits to a byte. -/
def tailBytes : Nat → Nat → Bytes
  | 0, _ => []
  -- The bytes go from the highest six of these bits to the lowest.
  | tails + 1, value => UInt8.ofNat (highBits tails value % 64 + 0x80) :: tailBytes tails value

private theorem toNat_tailByte (value : Nat) :
    (UInt8.ofNat (value % 64 + 0x80)).toNat = value % 64 + 0x80 := by
  -- Six bits and the mark fit into one byte.
  simp only [UInt8.toNat_ofNat']
  omega

/-- Continuation bytes are told by their value as a number. -/
theorem continues_iff {byte : UInt8} :
    continues byte = true ↔ 0x80 ≤ byte.toNat ∧ byte.toNat < 0xC0 := by
  -- Comparing bytes is comparing the numbers that they stand for.
  simp [continues, UInt8.le_iff_toNat_le, UInt8.lt_iff_toNat_lt]

/-- Every byte that carries low bits is a continuation byte. -/
theorem continues_of_mem_tailBytes {tails value : Nat} {byte : UInt8}
    (member : byte ∈ tailBytes tails value) : continues byte = true := by
  -- The induction follows the bytes, which are all marked in the same way.
  induction tails with
  | zero => simp [tailBytes] at member
  | succ tails ih =>
    rcases List.mem_cons.mp member with rfl | later
    · rw [continues_iff, toNat_tailByte]
      omega
    · exact ih later

/-- As many continuation bytes are written as are asked for. -/
theorem length_tailBytes (tails value : Nat) : (tailBytes tails value).length = tails := by
  -- Each step writes one of them.
  induction tails with
  | zero => rfl
  | succ tails ih => rw [tailBytes, List.length_cons, ih]

/-- Reading continuation bytes succeeds exactly where they carry the low bits of the outcome. -/
theorem extend_eq_some_iff {tails payload value : Nat} {view : Bytes} :
    extend tails payload view = some value ↔
      highBits tails value = payload ∧ tailBytes tails value <+: view := by
  -- Each byte moves six bits from the bytes to the payload.
  induction tails generalizing payload view with
  | zero =>
    simp only [extend, Option.some.injEq, highBits, tailBytes, List.nil_prefix, and_true]
    exact eq_comm
  | succ tails ih =>
    cases view with
    | nil => simp [extend, tailBytes]
    | cons byte rest =>
      rw [extend, tailBytes, List.cons_prefix_cons, highBits]
      constructor
      · intro read
        split at read
        · rename_i marked
          obtain ⟨lower, upper⟩ := continues_iff.mp marked
          obtain ⟨shifted, carried⟩ := ih.mp read
          refine ⟨by omega, ?_, carried⟩
          -- The byte is determined by the six bits that it carries.
          rw [← UInt8.toNat_inj, toNat_tailByte]
          omega
        · contradiction
      · rintro ⟨shifted, rfl, carried⟩
        have member : UInt8.ofNat (highBits tails value % 64 + 0x80) ∈
            tailBytes (tails + 1) value := List.mem_cons_self ..
        rw [if_pos (continues_of_mem_tailBytes member), toNat_tailByte]
        exact ih.mpr ⟨by omega, carried⟩

/-- The value of a first byte that begins a form of several bytes. -/
theorem Lead.of?_eq_some_iff {byte : UInt8} {lead : Lead} :
    Lead.of? byte = some lead ↔
      (byte.toNat = lead.payload + 0xC0 ∧ lead.payload < 32 ∧ lead.tails = 1 ∧ lead.least = 0x80) ∨
      (byte.toNat = lead.payload + 0xE0 ∧ lead.payload < 16 ∧ lead.tails = 2 ∧
        lead.least = 0x800) ∨
      (byte.toNat = lead.payload + 0xF0 ∧ lead.payload < 8 ∧ lead.tails = 3 ∧
        lead.least = 0x10000) := by
  -- The number of leading one bits tells the three forms apart.
  obtain ⟨payload, tails, least⟩ := lead
  simp only [Lead.of?, UInt8.lt_iff_toNat_lt, UInt8.reduceToNat]
  split
  · -- A byte below the three forms stands alone or inside a form.
    simp only [reduceCtorEq, false_iff]
    omega
  split
  · simp only [Option.some.injEq, Lead.mk.injEq]
    omega
  split
  · simp only [Option.some.injEq, Lead.mk.injEq]
    omega
  split
  · simp only [Option.some.injEq, Lead.mk.injEq]
    omega
  · simp only [reduceCtorEq, false_iff]
    omega

/-- The rune of a valid scalar value has that value. -/
theorem toNat_ofNat {value : Nat} (valid : value.isValidChar) :
    (Char.ofNat value).toNat = value := by
  -- Only an invalid value is replaced.
  rw [Char.ofNat, dif_pos valid]
  rfl

/-- Beyond ASCII, a rune is encoded as a first byte of its form and the bits that are left. -/
theorem exists_lead {rune : Char} (beyond : 0x80 ≤ rune.toNat) :
    ∃ first lead, Lead.of? first = some lead ∧ highBits lead.tails rune.toNat = lead.payload ∧
      lead.least ≤ rune.toNat ∧ encodeRune rune = first :: tailBytes lead.tails rune.toNat := by
  -- The size of the value selects the form.
  have bound : rune.toNat < 0x110000 := by
    rcases rune.valid with low | high
    · exact Nat.lt_trans low (by decide)
    · exact high.2
  rw [encodeRune, String.utf8EncodeChar, ← Char.toNat]
  rw [if_neg (by omega)]
  by_cases two : rune.toNat ≤ 0x7FF
  · refine ⟨UInt8.ofNat (rune.toNat / 64 % 0x20 + 0xC0), ⟨rune.toNat / 64, 1, 0x80⟩, ?_, ?_, ?_, ?_⟩
    · rw [Lead.of?_eq_some_iff, UInt8.toNat_ofNat']
      left
      refine ⟨?_, ?_, rfl, rfl⟩ <;> simp only <;> omega
    · rfl
    · exact beyond
    · rw [if_pos two]
      simp [tailBytes, highBits]
  rw [if_neg two]
  by_cases three : rune.toNat ≤ 0xFFFF
  · refine ⟨UInt8.ofNat (rune.toNat / 4096 % 0x10 + 0xE0), ⟨rune.toNat / 4096, 2, 0x800⟩,
      ?_, ?_, ?_, ?_⟩
    · rw [Lead.of?_eq_some_iff, UInt8.toNat_ofNat']
      right; left
      refine ⟨?_, ?_, rfl, rfl⟩ <;> simp only <;> omega
    · simp only [highBits]
      omega
    · simp only
      omega
    · rw [if_pos three]
      simp [tailBytes, highBits]
  rw [if_neg three]
  refine ⟨UInt8.ofNat (rune.toNat / 262144 % 0x08 + 0xF0), ⟨rune.toNat / 262144, 3, 0x10000⟩,
      ?_, ?_, ?_, ?_⟩
  · rw [Lead.of?_eq_some_iff, UInt8.toNat_ofNat']
    right; right
    refine ⟨?_, ?_, rfl, rfl⟩ <;> simp only <;> omega
  · simp only [highBits]
    omega
  · simp only
    omega
  · simp [tailBytes, highBits, Nat.div_div_eq_div_mul]

/-- A value has one form only, and one first byte in it. -/
theorem Lead.eq_of_value {first other : UInt8} {lead form : Lead} {value : Nat}
    (leads : Lead.of? first = some lead) (high : highBits lead.tails value = lead.payload)
    (least : lead.least ≤ value) (otherLeads : Lead.of? other = some form)
    (otherHigh : highBits form.tails value = form.payload) (otherLeast : form.least ≤ value) :
    first = other ∧ lead = form := by
  -- The bounds of the three forms do not overlap.
  obtain ⟨payload, tails, lowest⟩ := lead
  obtain ⟨otherPayload, otherTails, otherLowest⟩ := form
  have form := Lead.of?_eq_some_iff.mp leads
  have otherForm := Lead.of?_eq_some_iff.mp otherLeads
  simp only at high least otherHigh otherLeast form otherForm
  suffices first.toNat = other.toNat ∧ payload = otherPayload ∧ tails = otherTails ∧
      lowest = otherLowest by
    rw [← UInt8.toNat_inj, Lead.mk.injEq]
    exact this
  rcases form with ⟨byte, bound, rfl, rfl⟩ | ⟨byte, bound, rfl, rfl⟩ | ⟨byte, bound, rfl, rfl⟩ <;>
  rcases otherForm with ⟨otherByte, otherBound, rfl, rfl⟩ | ⟨otherByte, otherBound, rfl, rfl⟩ |
    ⟨otherByte, otherBound, rfl, rfl⟩ <;>
  simp only [highBits] at high otherHigh <;>
  omega

/-- An ASCII rune is encoded as the byte of its value. -/
theorem encodeRune_ascii {rune : Char} (ascii : rune.toNat < 0x80) :
    encodeRune rune = [UInt8.ofNat rune.toNat] := by
  -- The shortest form is taken wherever it is wide enough.
  rw [encodeRune, String.utf8EncodeChar, ← Char.toNat]
  exact if_pos (by omega)

/-- The first byte of a longer form is no ASCII byte. -/
theorem Lead.not_ascii {first : UInt8} {lead : Lead} (leads : Lead.of? first = some lead) :
    ¬ first < 0x80 := by
  -- All three forms begin above the continuation bytes.
  simp only [UInt8.lt_iff_toNat_lt, UInt8.reduceToNat]
  rcases Lead.of?_eq_some_iff.mp leads with form | form | form <;> omega

/-- What is decoded is encoded at the front of the view. -/
theorem encodeRune_prefix_of_scalar? {view : Bytes} {rune : Char}
    (decoded : scalar? view = some rune) : encodeRune rune <+: view := by
  -- ASCII has one byte for each value, and the other forms are fixed by their first byte.
  cases view with
  | nil => contradiction
  | cons first rest =>
    rw [scalar?] at decoded
    split at decoded
    · rename_i ascii
      simp only [UInt8.lt_iff_toNat_lt, UInt8.reduceToNat] at ascii
      cases decoded
      have value : (Char.ofNat first.toNat).toNat = first.toNat :=
        toNat_ofNat (Or.inl (by omega))
      rw [encodeRune_ascii (by omega), value, UInt8.ofNat_toNat]
      exact List.cons_prefix_cons.mpr ⟨rfl, List.nil_prefix⟩
    · simp only [Option.bind_eq_bind, Option.bind_eq_some_iff] at decoded
      obtain ⟨lead, leads, value, extended, decoded⟩ := decoded
      split at decoded
      · rename_i accepted
        cases decoded
        obtain ⟨high, carried⟩ := extend_eq_some_iff.mp extended
        have number := toNat_ofNat accepted.2
        have beyond : 0x80 ≤ (Char.ofNat value).toNat := by
          rcases Lead.of?_eq_some_iff.mp leads with form | form | form <;> omega
        obtain ⟨other, form, otherLeads, otherHigh, least, encoded⟩ := exists_lead beyond
        rw [number] at otherHigh least encoded
        obtain ⟨rfl, rfl⟩ := Lead.eq_of_value leads high accepted.1 otherLeads otherHigh least
        rw [encoded]
        exact List.cons_prefix_cons.mpr ⟨rfl, carried⟩
      · contradiction

/-- What is encoded at the front of a view is decoded. -/
theorem scalar?_of_encodeRune_prefix {view : Bytes} {rune : Char}
    (encoded : encodeRune rune <+: view) : scalar? view = some rune := by
  -- Each form leads to the branch of the decoder that reads it.
  by_cases ascii : rune.toNat < 0x80
  · rw [encodeRune_ascii ascii] at encoded
    obtain ⟨rest, rfl⟩ := encoded
    have number : (UInt8.ofNat rune.toNat).toNat = rune.toNat := by
      rw [UInt8.toNat_ofNat']
      omega
    rw [List.cons_append, scalar?, number, if_pos (by simpa [UInt8.lt_iff_toNat_lt, number])]
    simp
  · obtain ⟨first, lead, leads, high, least, form⟩ := exists_lead (Nat.le_of_not_lt ascii)
    rw [form] at encoded
    obtain ⟨rest, rfl⟩ := encoded
    have extended : extend lead.tails lead.payload (tailBytes lead.tails rune.toNat ++ rest) =
        some rune.toNat := extend_eq_some_iff.mpr ⟨high, List.prefix_append ..⟩
    rw [List.cons_append, scalar?, if_neg (Lead.not_ascii leads), leads]
    simp only [Option.bind_eq_bind, Option.bind_some, extended]
    rw [if_pos ⟨least, rune.valid⟩]
    simp

/-- Decoding succeeds exactly on the encoding of its outcome, whatever follows it. -/
theorem scalar?_eq_some_iff {view : Bytes} {rune : Char} :
    scalar? view = some rune ↔ encodeRune rune <+: view :=
  ⟨encodeRune_prefix_of_scalar?, scalar?_of_encodeRune_prefix⟩

end RuneScan.Utf8
