import Mathlib.Data.List.Forall2
import RuneScan.Proofs.Unicode.Letter
import RuneScan.Proofs.Utf8.Reading
import RuneScan.Text.AnyCase

/-! Texts are equal up to letter case exactly if their runes pair up as the same letters. -/

namespace RuneScan.Text

open Unicode (isThetaPair sameLetter)

/-- The runes of two views pair up as the same letters. -/
def PairUp (left right : Bytes) : Prop :=
  -- No rune is left over on either side.
  List.Forall₂ (fun first second => sameLetter first second = true) (Utf8.runes left)
    (Utf8.runes right)

/-- Going through two views at once compares their runes in pairs. -/
theorem sameLetters_iff {left right : Bytes} :
    sameLetters left right = true ↔ PairUp left right := by
  -- Each round takes one reading off both views.
  induction left, right using sameLetters.induct with
  | case1 => simp [sameLetters, PairUp]
  | case2 other others => simp [sameLetters, PairUp, Utf8.runes_of_ne_nil]
  | case3 first rest => simp [sameLetters, PairUp, Utf8.runes_of_ne_nil]
  | case4 first rest other others left right ih =>
    rw [sameLetters, Bool.and_eq_true, PairUp, Utf8.runes_of_ne_nil (List.cons_ne_nil first rest),
      Utf8.runes_of_ne_nil (List.cons_ne_nil other others), List.forall₂_cons]
    exact and_congr_right fun _ => ih

private theorem lower_ascii : ∀ code < 0x80,
    (Char.ofNat code).toLower = Char.ofNat (lowerByte (UInt8.ofNat code)).toNat ∧
      (Char.ofNat code).toUpper.toLower = (Char.ofNat code).toLower ∧
      lowerByte (UInt8.ofNat code) < 0x80 ∧
      Unicode.isLocaleBound (Char.ofNat code) = false := by
  -- Each of the ASCII runes can be looked at.
  decide +kernel

/-- The rune of a lowered ASCII byte is the small form of the rune of that byte. -/
theorem toLower_ofNat {byte : UInt8} (ascii : byte < 0x80) :
    (Char.ofNat byte.toNat).toLower = Char.ofNat (lowerByte byte).toNat := by
  -- It is one of the facts that were looked at for every ASCII rune.
  have small : byte.toNat < 0x80 := by simpa [UInt8.lt_iff_toNat_lt] using ascii
  have checked := (lower_ascii byte.toNat small).1
  rwa [UInt8.ofNat_toNat] at checked

private theorem eq_of_ofNat_eq {first second : UInt8} (left : first < 0x80) (right : second < 0x80)
    (same : Char.ofNat first.toNat = Char.ofNat second.toNat) : first = second := by
  -- The rune of an ASCII byte has the value of that byte.
  simp only [UInt8.lt_iff_toNat_lt, UInt8.reduceToNat] at left right
  have value := congrArg Char.toNat same
  rw [Utf8.toNat_ofNat (Or.inl (by omega)), Utf8.toNat_ofNat (Or.inl (by omega))] at value
  exact UInt8.toNat_inj.mp value

/-- ASCII runes are the same letter exactly if their bytes are the same once both are lowered. -/
theorem sameLetter_ascii {first second : UInt8} (left : first < 0x80) (right : second < 0x80) :
    sameLetter (Char.ofNat first.toNat) (Char.ofNat second.toNat) =
      (lowerByte first == lowerByte second) := by
  -- Equal capitals have equal small letters, so lowering decides alone.
  have small : ∀ {byte : UInt8}, byte < 0x80 → byte.toNat < 0x80 := by
    intro byte ascii
    simpa [UInt8.lt_iff_toNat_lt] using ascii
  obtain ⟨lowered, raised, within, free⟩ := lower_ascii first.toNat (small left)
  obtain ⟨otherLowered, otherRaised, otherWithin, otherFree⟩ :=
    lower_ascii second.toNat (small right)
  rw [UInt8.ofNat_toNat] at lowered within otherLowered otherWithin
  have value := Utf8.toNat_ofNat (Or.inl (Nat.lt_trans (small left) (by decide)))
  have otherValue := Utf8.toNat_ofNat (Or.inl (Nat.lt_trans (small right) (by decide)))
  rw [Bool.eq_iff_iff, Unicode.sameLetter_iff, beq_iff_eq, Unicode.lower, Unicode.lower,
    Unicode.upper, Unicode.upper, value, otherValue, if_pos (small left), if_pos (small right),
    if_pos (small left), if_pos (small right), List.singleton_inj, List.singleton_inj]
  constructor
  · intro same
    apply eq_of_ofNat_eq within otherWithin
    rw [← lowered, ← otherLowered]
    rcases same with equal | ⟨_, _, equal | equal⟩
    · rw [equal]
    · exact equal
    · rw [← raised, ← otherRaised, equal]
  · intro same
    refine Or.inr ⟨free, otherFree, Or.inl ?_⟩
    rw [lowered, otherLowered, same]

/-- Comparing ASCII views byte by byte compares their runes in pairs. -/
theorem map_lowerByte_iff {left right : Bytes} (leftAscii : Bytes.isAscii left = true)
    (rightAscii : Bytes.isAscii right = true) :
    left.map lowerByte = right.map lowerByte ↔ PairUp left right := by
  -- Each ASCII byte is a rune by itself.
  induction left generalizing right with
  | nil =>
    cases right with
    | nil => simp [PairUp]
    | cons other others => simp [PairUp, Utf8.runes_of_ne_nil]
  | cons first rest ih =>
    cases right with
    | nil => simp [PairUp, Utf8.runes_of_ne_nil]
    | cons other others =>
      rw [Bytes.isAscii_cons_iff] at leftAscii rightAscii
      rw [PairUp, Utf8.runes_of_ne_nil (List.cons_ne_nil first rest),
        Utf8.runes_of_ne_nil (List.cons_ne_nil other others), Utf8.read_ascii leftAscii.1,
        Utf8.read_ascii rightAscii.1, List.forall₂_cons, sameLetter_ascii leftAscii.1 rightAscii.1,
        beq_iff_eq, List.map_cons, List.map_cons, List.cons.injEq]
      exact and_congr_right fun _ => ih leftAscii.2 rightAscii.2

/-- Texts are equal up to letter case exactly if their runes pair up as the same letters. -/
theorem equalAnyCase_iff {left right : Bytes} :
    equalAnyCase left right = true ↔ PairUp left right := by
  -- The bytes are compared where both views are ASCII, and the runes everywhere else.
  rw [equalAnyCase]
  split
  · rename_i ascii
    rw [Bool.and_eq_true] at ascii
    rw [beq_iff_eq, map_lowerByte_iff ascii.1 ascii.2]
  · exact sameLetters_iff

/-- The runes of every view pair up with themselves. -/
theorem PairUp.refl (view : Bytes) : PairUp view view := by
  -- Every rune is the same letter as itself.
  rw [PairUp, List.forall₂_same]
  exact fun rune _ => Unicode.sameLetter_refl rune

/-- Pairing up does not depend on the order of the views. -/
theorem PairUp.symm {left right : Bytes} (pairs : PairUp left right) : PairUp right left := by
  -- Each pair can be turned around by itself.
  apply List.Forall₂.flip
  refine pairs.imp ?_
  intro first second same
  rwa [flip, Unicode.sameLetter_comm]

/-- Views that pair up with a third pair up, unless two thetas meet. -/
theorem PairUp.trans_iff {first second third : Bytes} (left : PairUp first second)
    (right : PairUp second third) :
    PairUp first third ↔ ∀ pair ∈ (Utf8.runes first).zip (Utf8.runes third),
      isThetaPair pair.1 pair.2 = false := by
  -- The induction follows the first pairing, and takes the same rune off all three views.
  unfold PairUp at *
  generalize Utf8.runes first = firsts at *
  generalize Utf8.runes second = seconds at *
  generalize Utf8.runes third = thirds at *
  induction left generalizing thirds with
  | nil =>
    cases right
    simp
  | cons same pairs ih =>
    cases right with
    | cons again others =>
      rw [List.forall₂_cons, List.zip_cons_cons, List.forall_mem_cons, ih _ others,
        Unicode.sameLetter_trans same again, Bool.not_eq_true']

/-- Encoded texts pair up exactly if their own runes do. -/
theorem pairUp_encode_iff {left right : String} :
    PairUp (Utf8.encode left) (Utf8.encode right) ↔
      List.Forall₂ (fun first second => sameLetter first second = true) left.toList
        right.toList := by
  -- The runes of an encoded text are its own.
  rw [PairUp, Utf8.runes_encode, Utf8.runes_encode]

/--
Equality up to letter case is an equivalence, but for two forms of theta.

The capital theta symbol and the small one both equal the small theta. Where they meet in the same
place of two texts, these texts are not equal, although both may equal a third.
-/
theorem equalAnyCase_equivalence_iff (first second third : Bytes) :
    equalAnyCase first first = true ∧
      equalAnyCase first second = equalAnyCase second first ∧
      (equalAnyCase first second = true → equalAnyCase second third = true →
        (equalAnyCase first third = true ↔
          ∀ pair ∈ (Utf8.runes first).zip (Utf8.runes third),
            isThetaPair pair.1 pair.2 = false)) := by
  -- All three laws are laws of the pairs of runes.
  refine ⟨?_, ?_, ?_⟩
  · exact equalAnyCase_iff.mpr (PairUp.refl first)
  · rw [Bool.eq_iff_iff, equalAnyCase_iff, equalAnyCase_iff]
    exact ⟨PairUp.symm, PairUp.symm⟩
  · intro left right
    rw [equalAnyCase_iff] at left right ⊢
    exact left.trans_iff right

/-- A theta symbol and a long s do not keep apart what their plain letters join. -/
theorem equalAnyCase_theta_long_s :
    equalAnyCase (Utf8.encode "\u03F4\u017F") (Utf8.encode "\u03B8s") = true ∧
      equalAnyCase (Utf8.encode "\u03B8s") (Utf8.encode "\u0398S") = true ∧
      equalAnyCase (Utf8.encode "\u03F4\u017F") (Utf8.encode "\u0398S") = true := by
  -- The two theta symbols do not meet here, so the third equality follows from the others.
  have left : equalAnyCase (Utf8.encode "\u03F4\u017F") (Utf8.encode "\u03B8s") = true := by
    rw [equalAnyCase_iff, pairUp_encode_iff]
    decide +kernel
  have right : equalAnyCase (Utf8.encode "\u03B8s") (Utf8.encode "\u0398S") = true := by
    rw [equalAnyCase_iff, pairUp_encode_iff]
    decide +kernel
  refine ⟨left, right, ((equalAnyCase_equivalence_iff _ _ _).2.2 left right).mpr ?_⟩
  rw [Utf8.runes_encode, Utf8.runes_encode]
  decide +kernel

/-- Equality up to letter case is not transitive: the small theta equals both of its symbols. -/
theorem equalAnyCase_not_transitive :
    ¬ ∀ first second third, equalAnyCase first second = true → equalAnyCase second third = true →
      equalAnyCase first third = true := by
  -- The capital symbol is lowered to the small theta, whose capital is that of the small symbol.
  intro transitive
  have left : equalAnyCase (Utf8.encode "\u03F4") (Utf8.encode "\u03B8") = true := by
    rw [equalAnyCase_iff, pairUp_encode_iff]
    decide +kernel
  have right : equalAnyCase (Utf8.encode "\u03B8") (Utf8.encode "\u03D1") = true := by
    rw [equalAnyCase_iff, pairUp_encode_iff]
    decide +kernel
  have joined := transitive _ _ _ left right
  rw [equalAnyCase_iff, pairUp_encode_iff] at joined
  revert joined
  decide +kernel

/--
Views are equal up to letter case exactly if their runes are the same letters, one by one.

This is what going through the readings of both views at once decides. Views of ASCII bytes, of any
lengths, are compared by their lowered bytes, which decides the same.
-/
theorem equalAnyCase_pairwise (left right : Bytes) :
    (equalAnyCase left right = true ↔
      (Utf8.runes left).length = (Utf8.runes right).length ∧
        ∀ pair ∈ (Utf8.runes left).zip (Utf8.runes right), sameLetter pair.1 pair.2 = true) ∧
      equalAnyCase left right = sameLetters left right ∧
      (Bytes.isAscii left = true → Bytes.isAscii right = true →
        (left.map lowerByte == right.map lowerByte) = sameLetters left right) := by
  -- All three ways to compare are ways to tell whether the runes pair up.
  refine ⟨?_, ?_, ?_⟩
  · rw [equalAnyCase_iff, PairUp, List.forall₂_iff_zip, Prod.forall]
  · rw [Bool.eq_iff_iff, equalAnyCase_iff, sameLetters_iff]
  · intro leftAscii rightAscii
    rw [Bool.eq_iff_iff, beq_iff_eq, map_lowerByte_iff leftAscii rightAscii, sameLetters_iff]

/-- Two ASCII words are compared by their bytes, and found the same as by their runes. -/
theorem equalAnyCase_pairwise_word :
    Bytes.isAscii (Utf8.encode "let") = true ∧ Bytes.isAscii (Utf8.encode "LeT") = true ∧
      sameLetters (Utf8.encode "let") (Utf8.encode "LeT") = true ∧
      sameLetters (Utf8.encode "let") (Utf8.encode "LeTs") = false := by
  have ascii : ∀ text ∈ ["let", "LeT", "LeTs"], Bytes.isAscii (Utf8.encode text) = true := by
    decide +kernel
  refine ⟨ascii _ (by simp), ascii _ (by simp), ?_, ?_⟩
  · rw [← (equalAnyCase_pairwise _ _).2.2 (ascii _ (by simp)) (ascii _ (by simp))]
    decide +kernel
  · rw [← (equalAnyCase_pairwise _ _).2.2 (ascii _ (by simp)) (ascii _ (by simp))]
    decide +kernel

end RuneScan.Text
