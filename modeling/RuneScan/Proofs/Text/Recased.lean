import RuneScan.Proofs.Text.AnyCase

/-! The case of ASCII letters makes no difference to whether texts are equal up to letter case. -/

namespace RuneScan.Text

open Unicode (sameLetter)

/-- Two bytes that are the same, or the two forms of one ASCII letter. -/
inductive SameButCase : UInt8 → UInt8 → Prop where
  /-- Any byte may stay as it is. -/
  | kept (byte : UInt8) : SameButCase byte byte
  /-- A capital may turn into its small letter. -/
  | lowered {capital : UInt8} (first : 0x41 ≤ capital) (last : capital ≤ 0x5A) :
      SameButCase capital (capital + 0x20)
  /-- A small letter may turn into its capital. -/
  | raised {capital : UInt8} (first : 0x41 ≤ capital) (last : capital ≤ 0x5A) :
      SameButCase (capital + 0x20) capital

/-- The bytes of two views differ at most in the case of ASCII letters. -/
def Recased (left right : Bytes) : Prop := List.Forall₂ SameButCase left right

/-- Lowering moves the capital letters, as numbers, and nothing else. -/
theorem toNat_lowerByte (byte : UInt8) :
    (lowerByte byte).toNat =
      if 0x41 ≤ byte.toNat ∧ byte.toNat ≤ 0x5A then byte.toNat + 0x20 else byte.toNat := by
  -- A lowered capital still fits into a byte.
  rw [lowerByte]
  simp only [UInt8.le_iff_toNat_le, UInt8.reduceToNat]
  split
  · simp only [UInt8.toNat_add, UInt8.reduceToNat]
    omega
  · rfl

/-- Bytes are the same but for case exactly if they are the same once both are lowered. -/
theorem sameButCase_iff {first second : UInt8} :
    SameButCase first second ↔ lowerByte first = lowerByte second := by
  -- Both sides compare the values of the two bytes.
  have shifted : ∀ {capital small : UInt8}, capital.toNat ≤ 0x5A →
      small.toNat = capital.toNat + 0x20 → capital + 0x20 = small := by
    intro capital small last value
    rw [← UInt8.toNat_inj, value, UInt8.toNat_add]
    exact Nat.mod_eq_of_lt (by simp only [UInt8.reduceToNat]; omega)
  rw [← UInt8.toNat_inj, toNat_lowerByte, toNat_lowerByte]
  constructor
  · rintro (_ | ⟨least, greatest⟩ | ⟨least, greatest⟩)
    · rfl
    all_goals
      simp only [UInt8.le_iff_toNat_le, UInt8.toNat_add, UInt8.reduceToNat] at least greatest ⊢
      split <;> split <;> omega
  · intro same
    by_cases capital : 0x41 ≤ first.toNat ∧ first.toNat ≤ 0x5A <;>
      by_cases other : 0x41 ≤ second.toNat ∧ second.toNat ≤ 0x5A
    · rw [if_pos capital, if_pos other, Nat.add_right_cancel_iff, UInt8.toNat_inj] at same
      exact same ▸ SameButCase.kept first
    · rw [if_pos capital, if_neg other] at same
      exact shifted capital.2 same.symm ▸ SameButCase.lowered capital.1 capital.2
    · rw [if_neg capital, if_pos other] at same
      exact shifted other.2 same ▸ SameButCase.raised other.1 other.2
    · rw [if_neg capital, if_neg other, UInt8.toNat_inj] at same
      exact same ▸ SameButCase.kept first

/-- Views are the same but for case exactly if they are the same once both are lowered. -/
theorem recased_iff {left right : Bytes} :
    Recased left right ↔ left.map lowerByte = right.map lowerByte := by
  -- The bytes are compared one by one on both sides.
  rw [Recased, ← List.forall₂_eq_eq_eq, List.forall₂_map_left_iff, List.forall₂_map_right_iff]
  exact ⟨fun same => same.imp fun _ _ => sameButCase_iff.mp,
    fun same => same.imp fun _ _ => sameButCase_iff.mpr⟩

instance (left right : Bytes) : Decidable (Recased left right) :=
  decidable_of_iff' _ recased_iff

/-- Lowering leaves a byte beyond ASCII as it is. -/
theorem lowerByte_of_beyond {byte : UInt8} (beyond : ¬ byte < 0x80) : lowerByte byte = byte := by
  -- The capital letters are ASCII bytes.
  simp only [UInt8.lt_iff_toNat_lt, UInt8.reduceToNat] at beyond
  rw [← UInt8.toNat_inj, toNat_lowerByte, if_neg (by omega)]

/-- A lowered byte continues a form exactly if the byte itself does. -/
theorem continues_lowerByte (byte : UInt8) :
    Utf8.continues (lowerByte byte) = Utf8.continues byte := by
  -- Small letters and capitals both lie below the continuation bytes.
  rw [Bool.eq_iff_iff, Utf8.continues_iff, Utf8.continues_iff, toNat_lowerByte]
  split <;> omega

/-- Continuation bytes carry the same bits in front of lowered letters. -/
theorem extend_map_lowerByte (tails payload : Nat) (view : Bytes) :
    Utf8.extend tails payload (view.map lowerByte) = Utf8.extend tails payload view := by
  -- The induction follows the continuation bytes, none of which is a letter.
  induction tails generalizing payload view with
  | zero => rfl
  | succ tails ih =>
    cases view with
    | nil => rfl
    | cons byte rest =>
      rw [List.map_cons, Utf8.extend, Utf8.extend, continues_lowerByte]
      split
      · rename_i marked
        have lower := (Utf8.continues_iff.mp marked).1
        rw [toNat_lowerByte, if_neg (by omega), ih]
      · rfl

/-- Lowering the letters of a view lowers the rune that is read, and leaves its width as it is. -/
theorem read_map_lowerByte (view : Bytes) :
    Utf8.read (view.map lowerByte) = ⟨(Utf8.read view).rune.toLower, (Utf8.read view).width⟩ := by
  cases view with
  | nil => rfl
  | cons first rest =>
    rw [List.map_cons]
    by_cases ascii : first < 0x80
    · have small : lowerByte first < 0x80 := by
        simp only [UInt8.lt_iff_toNat_lt, toNat_lowerByte, UInt8.reduceToNat] at ascii ⊢
        split <;> omega
      rw [Utf8.read_ascii ascii, Utf8.read_ascii small, toLower_ofNat ascii]
    · -- Neither the first byte nor what it announces is changed.
      have decoded : Utf8.scalar? (first :: rest.map lowerByte) = Utf8.scalar? (first :: rest) := by
        simp only [Utf8.scalar?, if_neg ascii, extend_map_lowerByte]
      rw [lowerByte_of_beyond ascii, Unicode.toLower_of_beyond (Utf8.read_beyond_ascii ascii rest),
        Utf8.read, Utf8.read, decoded, List.length_cons, List.length_cons, List.length_map]

/-- Lowering the letters of a view lowers its runes one by one. -/
theorem runes_map_lowerByte (view : Bytes) :
    Utf8.runes (view.map lowerByte) = (Utf8.runes view).map Char.toLower := by
  -- The induction follows the readings, which are equally wide in both views.
  fun_induction Utf8.runes view with
  | case1 => rw [List.map_nil, Utf8.runes_nil, List.map_nil]
  | case2 first rest ih =>
    have filled : (first :: rest).map lowerByte ≠ [] := by simp
    rw [Utf8.runes_of_ne_nil filled, read_map_lowerByte, ← List.map_drop, ih, List.map_cons]

/-- Lowering the letters of views makes no difference to whether their runes pair up. -/
theorem pairUp_map_lowerByte {left right : Bytes} :
    PairUp (left.map lowerByte) (right.map lowerByte) ↔ PairUp left right := by
  -- Each rune is the same letter as before.
  have kept : (fun first second => sameLetter first.toLower second.toLower = true) =
      fun first second => sameLetter first second = true := by
    funext first second
    rw [Unicode.sameLetter_toLower, Unicode.sameLetter_comm, Unicode.sameLetter_toLower,
      Unicode.sameLetter_comm]
  rw [PairUp, PairUp, runes_map_lowerByte, runes_map_lowerByte, List.forall₂_map_left_iff,
    List.forall₂_map_right_iff, kept]

/-- Whether texts are equal up to case does not depend on the case of their ASCII letters. -/
theorem equalAnyCase_congr {left right other another : Bytes} (same : Recased left other)
    (alsoSame : Recased right another) : equalAnyCase left right = equalAnyCase other another := by
  -- Once both sides are lowered, there is nothing that they differ in.
  rw [Bool.eq_iff_iff, equalAnyCase_iff, equalAnyCase_iff, ← pairUp_map_lowerByte,
    recased_iff.mp same, recased_iff.mp alsoSame, pairUp_map_lowerByte]

/-- Views that are the same but for the case of ASCII letters pair up. -/
theorem Recased.pairUp {left right : Bytes} (same : Recased left right) : PairUp left right := by
  -- They are one view once both are lowered.
  rw [← pairUp_map_lowerByte, recased_iff.mp same]
  exact PairUp.refl _

/-- A byte that is read by itself as the same letter as an ASCII rune is an ASCII byte. -/
theorem ascii_of_sameLetter {first other : UInt8} {rest : Bytes} (ascii : other < 0x80)
    (narrow : (Utf8.read (first :: rest)).width ≤ 1)
    (same : sameLetter (Utf8.read (first :: rest)).rune (Char.ofNat other.toNat) = true) :
    first < 0x80 := by
  refine Decidable.byContradiction fun beyond => ?_
  -- Any other byte is read as a replacement, which is no letter at all.
  rw [Utf8.rune_of_narrow beyond narrow] at same
  have value := congrArg Char.toNat (Unicode.eq_of_sameLetter_replacement same)
  have below : other.toNat < 0x80 := UInt8.lt_iff_toNat_lt.mp ascii
  rw [Utf8.toNat_ofNat (Or.inl (Nat.lt_trans below (by decide)))] at value
  exact absurd (value ▸ below) (by decide)

/-- As many bytes as an ASCII text has, or fewer, pair up with it only if they are ASCII bytes. -/
theorem isAscii_of_pairUp {left right : Bytes} (ascii : Bytes.isAscii right = true)
    (short : left.length ≤ right.length) (pairs : PairUp left right) :
    Bytes.isAscii left = true := by
  -- The induction takes one rune off both views, which is one byte of the ASCII text.
  induction right generalizing left with
  | nil =>
    rw [List.length_eq_zero_iff.mp (Nat.le_zero.mp short)]
    rfl
  | cons other others ih =>
    cases left with
    | nil => rfl
    | cons first rest =>
      rw [PairUp, Utf8.runes_of_ne_nil (List.cons_ne_nil first rest), Utf8.runes_of_isAscii ascii,
        List.map_cons, List.forall₂_cons] at pairs
      obtain ⟨same, later⟩ := pairs
      rw [Bytes.isAscii_cons_iff] at ascii
      rw [List.length_cons, List.length_cons] at short
      -- A reading of several bytes would leave too few of them for the other runes.
      have narrow : (Utf8.read (first :: rest)).width ≤ 1 := by
        have counted := later.length_eq
        have bound := Utf8.length_runes_le ((first :: rest).drop (Utf8.read (first :: rest)).width)
        have within := Utf8.read_width_le (first :: rest)
        rw [List.length_map] at counted
        rw [List.length_drop] at bound
        rw [List.length_cons] at bound within
        omega
      have small := ascii_of_sameLetter ascii.1 narrow same
      rw [Utf8.read_ascii small, ← Utf8.runes_of_isAscii ascii.2] at later
      exact Bytes.isAscii_cons_iff.mpr ⟨small, ih ascii.2 (Nat.le_of_succ_le_succ short) later⟩

/-- No more bytes than its own pair up with an ASCII text if only letters differ, and in case. -/
theorem pairUp_ascii_iff {left right : Bytes} (ascii : Bytes.isAscii right = true)
    (short : left.length ≤ right.length) : PairUp left right ↔ Recased left right := by
  -- Where both views are ASCII, pairing up is comparing the lowered bytes.
  constructor
  · intro pairs
    rw [recased_iff, map_lowerByte_iff (isAscii_of_pairUp ascii short pairs) ascii]
    exact pairs
  · exact Recased.pairUp

end RuneScan.Text
