import RuneScan.Proofs.Bytes.Search
import RuneScan.Proofs.Utf8.Reading

/-! Neither a text nor an ASCII rune begins inside of what is read as one rune. -/

namespace RuneScan.Utf8

/-- A text begins at the front of a view if it occurs inside of what is read there. -/
theorem encode_prefix_of_inside {text : String} {view : Bytes} {inside : Nat}
    (within : inside < (read view).width) (occurs : encode text <+: view.drop inside) :
    encode text <+: view := by
  -- Inside a reading there are continuation bytes only, and no text begins with one.
  cases inside with
  | zero => rwa [List.drop_zero] at occurs
  | succ inside =>
    obtain ⟨byte, rest, there, continuing⟩ := continues_inside (Nat.succ_pos inside) within
    rw [there] at occurs
    rw [encode] at occurs ⊢
    generalize text.toList = runes at occurs ⊢
    cases runes with
    | nil => exact List.nil_prefix
    | cons rune others =>
      obtain ⟨first, tail, encoded, begins, _⟩ := exists_encodeRune_eq_cons rune
      rw [List.flatMap_cons, encoded, List.cons_append, List.cons_prefix_cons] at occurs
      rw [← occurs.1, begins] at continuing
      contradiction

/-- The encoding of a text holds ASCII bytes only if the text holds ASCII runes only. -/
theorem rune_ascii_of_isAscii {set : String} (ascii : Bytes.isAscii (encode set) = true)
    {rune : Char} (member : rune ∈ set.toList) : rune.toNat < 0x80 := by
  -- The first byte of a longer form would be no ASCII byte.
  apply Nat.lt_of_not_le
  intro beyond
  obtain ⟨first, lead, leads, _, _, encoded⟩ := exists_lead beyond
  have inEncoding : first ∈ encode set := by
    rw [encode, List.mem_flatMap]
    exact ⟨rune, member, by rw [encoded]; exact List.mem_cons_self ..⟩
  exact Lead.not_ascii leads (Bytes.isAscii_iff.mp ascii first inEncoding)

/-- A byte belongs to an ASCII text exactly if its rune does. -/
theorem mem_encode_iff_of_isAscii {set : String} (ascii : Bytes.isAscii (encode set) = true)
    {byte : UInt8} : byte ∈ encode set ↔ byte < 0x80 ∧ Char.ofNat byte.toNat ∈ set.toList := by
  -- Each rune of the text is encoded as the byte of its value.
  rw [UInt8.lt_iff_toNat_lt, encode, List.mem_flatMap]
  constructor
  · rintro ⟨rune, member, inRune⟩
    have small := rune_ascii_of_isAscii ascii member
    rw [encodeRune_ascii small, List.mem_singleton] at inRune
    have number : byte.toNat = rune.toNat := by
      rw [inRune, UInt8.toNat_ofNat']
      omega
    rw [number, Char.ofNat_toNat]
    exact ⟨small, member⟩
  · rintro ⟨small, member⟩
    have number := toNat_ofNat (Or.inl (Nat.lt_trans small (by decide)))
    refine ⟨_, member, ?_⟩
    rw [encodeRune_ascii (by rwa [number]), number, UInt8.ofNat_toNat, List.mem_singleton]

/-- What is read belongs to an ASCII text exactly if the first byte does. -/
theorem read_rune_mem_iff {set : String} (ascii : Bytes.isAscii (encode set) = true)
    (first : UInt8) (rest : Bytes) :
    (read (first :: rest)).rune ∈ set.toList ↔ first ∈ encode set := by
  -- An ASCII byte is read as its rune, and no other byte is read as an ASCII rune.
  rw [mem_encode_iff_of_isAscii ascii]
  by_cases small : first < 0x80
  · rw [read_ascii small]
    simp only [small, true_and]
  · constructor
    · intro member
      have beyond := read_beyond_ascii small rest
      have below := rune_ascii_of_isAscii ascii member
      omega
    · rintro ⟨below, _⟩
      contradiction

/-- What is inside of a reading begins with no byte of an ASCII text. -/
theorem beginsWithAny_of_inside {set : String} (ascii : Bytes.isAscii (encode set) = true)
    {view : Bytes} {inside : Nat} (within : inside < (read view).width)
    (begins : Bytes.BeginsWithAny (encode set) (view.drop inside)) :
    Bytes.BeginsWithAny (encode set) view := by
  -- Inside a reading there are continuation bytes only, which are no ASCII bytes.
  cases inside with
  | zero => rwa [List.drop_zero] at begins
  | succ inside =>
    obtain ⟨byte, rest, there, continuing⟩ := continues_inside (Nat.succ_pos inside) within
    obtain ⟨found, first, member⟩ := begins
    rw [there, List.head?_cons, Option.mem_some_iff] at first
    subst first
    have small := ((mem_encode_iff_of_isAscii ascii).mp member).1
    rw [UInt8.lt_iff_toNat_lt] at small
    have lower := (continues_iff.mp continuing).1
    exact absurd small (Nat.not_lt.mpr lower)

end RuneScan.Utf8
