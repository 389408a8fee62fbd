import RuneScan.Proofs.Unicode.LowerTable

/-! Being the same letter is reflexive and symmetric, and transitive but for two forms of theta. -/

namespace RuneScan.Unicode

/-- The runes that can have a given upper-case form. -/
def upperSources (form : List Char) : List Char :=
  -- Beyond ASCII, the table tells.
  (((List.range 0x80).map Char.ofNat).filter fun rune => [rune.toUpper] == form) ++
    upperTable.sources form

/-- Every rune is among the sources of its upper-case form. -/
theorem mem_upperSources {rune : Char} {form : List Char} (formed : upper rune = form)
    (nonzero : '\x00' ∉ form) : rune ∈ upperSources form := by
  -- The two parts of the sources answer to the two ways to the form.
  rw [upperSources, List.mem_append]
  rw [upper] at formed
  split at formed
  · rename_i ascii
    left
    rw [List.mem_filter, List.mem_map]
    exact ⟨⟨rune.toNat, List.mem_range.mpr ascii, Char.ofNat_toNat rune⟩, by simp [formed]⟩
  · exact Or.inr (CaseTable.mem_sources formed nonzero)

/-- The capital theta symbol and the small one, which are both forms of the small theta. -/
def isThetaPair (left right : Char) : Bool :=
  -- Neither of them is the other case of the other.
  left == '\u03F4' && right == '\u03D1' || left == '\u03D1' && right == '\u03F4'

/-- The two thetas can come in either order. -/
theorem isThetaPair_comm (left right : Char) : isThetaPair left right = isThetaPair right left := by
  -- The definition names both orders.
  rw [isThetaPair, isThetaPair, Bool.or_comm, Bool.and_comm (left == '\u03D1'),
    Bool.and_comm (left == '\u03F4')]

/-- Whether a rune is its own upper-case form, and that of no other rune. -/
def isLoneCapital (rune : Char) : Bool :=
  upper rune == [rune] && (upperSources [rune]).all (· == rune)

private theorem strayCapitals_isLoneCapital : strayCapitals.all isLoneCapital = true := by
  -- The table takes no other rune to one of them.
  decide +kernel

/-- Whether a rune has the small letter of all runes that are raised like its own small letter. -/
def sharesLower (rune : Char) : Bool :=
  -- The two thetas have the same small theta, but only one of them is lowered to it.
  let raised := (lower rune).flatMap upper
  !raised.contains '\x00' &&
    (upperSources raised).all fun other => lower other == lower rune || isThetaPair rune other

private theorem strayCapitals_sharesLower : strayCapitals.all sharesLower = true := by
  -- The theta symbol is the one of them that needs the exception for the thetas.
  decide +kernel

/-- Being the same letter is being equal, or agreeing in either case in every language. -/
theorem sameLetter_iff {left right : Char} :
    sameLetter left right = true ↔ left = right ∨
      isLocaleBound left = false ∧ isLocaleBound right = false ∧
        (lower left = lower right ∨ upper left = upper right) := by
  -- The definition says the same with Boolean connectives.
  simp [sameLetter, and_assoc]

/-- Every rune is the same letter as itself. -/
theorem sameLetter_refl (rune : Char) : sameLetter rune rune = true :=
  sameLetter_iff.mpr (Or.inl rfl)

/-- Being the same letter does not depend on the order. -/
theorem sameLetter_comm (left right : Char) : sameLetter left right = sameLetter right left := by
  -- Agreement in either case can be read from both sides.
  rw [Bool.eq_iff_iff, sameLetter_iff, sameLetter_iff, eq_comm (a := left),
    eq_comm (a := lower left), eq_comm (a := upper left), and_left_comm]

/-- Agreement in small letters and then in capitals is agreement in one of them, or a theta pair. -/
theorem agree_of_lower_of_upper {first second third : Char} (free : isLocaleBound first = false)
    (alsoFree : isLocaleBound second = false) (small : lower first = lower second)
    (capital : upper second = upper third) :
    lower first = lower third ∨ upper first = upper third ∨ isThetaPair first third = true := by
  -- The capital of a rune is that of its small letter, unless it is a stray capital.
  by_cases secondStray : second ∈ strayCapitals
  · have lone := List.all_eq_true.mp strayCapitals_isLoneCapital second secondStray
    rw [isLoneCapital, Bool.and_eq_true, beq_iff_eq, List.all_eq_true] at lone
    have nonzero : '\x00' ∉ [second] := by
      rw [List.mem_singleton]
      rintro rfl
      revert secondStray
      decide
    have same := lone.2 third (mem_upperSources (capital.symm.trans lone.1) nonzero)
    exact Or.inl (by rw [small, beq_iff_eq.mp same])
  have secondCapital := upper_lower secondStray alsoFree
  by_cases firstStray : first ∈ strayCapitals
  · have shares := List.all_eq_true.mp strayCapitals_sharesLower first firstStray
    simp only [sharesLower, Bool.and_eq_true, Bool.not_eq_true', List.all_eq_true] at shares
    have nonzero : '\x00' ∉ (lower first).flatMap upper := by
      rw [← List.contains_iff_mem, shares.1]
      simp
    have thirdCapital : upper third = (lower first).flatMap upper := by
      rw [small, secondCapital, capital]
    have same := shares.2 third (mem_upperSources thirdCapital nonzero)
    rw [Bool.or_eq_true, beq_iff_eq] at same
    rcases same with same | theta
    · exact Or.inl same.symm
    · exact Or.inr (Or.inr theta)
  · right; left
    rw [← upper_lower firstStray free, small, secondCapital, capital]

/-- The two thetas are not the same letter. -/
theorem sameLetter_thetaPair {left right : Char} (theta : isThetaPair left right = true) :
    sameLetter left right = false := by
  -- The capital symbol lowers to the small theta, and the small symbol is raised to the capital.
  simp only [isThetaPair, Bool.or_eq_true, Bool.and_eq_true, beq_iff_eq] at theta
  rcases theta with ⟨rfl, rfl⟩ | ⟨rfl, rfl⟩ <;> decide +kernel

/-- Runes that are the same letter as a third are the same letter, unless they are the thetas. -/
theorem sameLetter_trans {first second third : Char} (left : sameLetter first second = true)
    (right : sameLetter second third = true) :
    sameLetter first third = !isThetaPair first third := by
  -- The thetas are no same letter, and without them one of the agreements carries over.
  cases theta : isThetaPair first third with
  | true => exact sameLetter_thetaPair theta
  | false =>
    rw [Bool.not_false]
    rcases sameLetter_iff.mp left with rfl | ⟨free, alsoFree, agree⟩
    · exact right
    rcases sameLetter_iff.mp right with rfl | ⟨_, lastFree, agreeAgain⟩
    · exact left
    rw [sameLetter_iff]
    refine Or.inr ⟨free, lastFree, ?_⟩
    rcases agree with small | capital <;> rcases agreeAgain with smallAgain | capitalAgain
    · exact Or.inl (small.trans smallAgain)
    · rcases agree_of_lower_of_upper free alsoFree small capitalAgain with same | same | pair
      · exact Or.inl same
      · exact Or.inr same
      · rw [theta] at pair
        contradiction
    · -- The same argument from the other end meets the thetas in the other order.
      rcases agree_of_lower_of_upper lastFree alsoFree smallAgain.symm capital.symm with
        same | same | pair
      · exact Or.inl same.symm
      · exact Or.inr same.symm
      · rw [isThetaPair_comm, theta] at pair
        contradiction
    · exact Or.inr (capital.trans capitalAgain)

/-- An ASCII rune is neither of the two thetas. -/
theorem isThetaPair_of_ascii {left : Char} (ascii : left.toNat < 0x80) (right : Char) :
    isThetaPair left right = false := by
  -- Both thetas lie beyond ASCII.
  have other : ∀ theta : Char, 0x80 ≤ theta.toNat → (left == theta) = false := by
    intro theta beyond
    rw [beq_eq_false_iff_ne]
    rintro rfl
    omega
  rw [isThetaPair, other '\u03F4' (by decide), other '\u03D1' (by decide), Bool.false_and,
    Bool.false_and, Bool.false_or]

/-- ASCII runes that are the same letter are the same letter as the same runes. -/
theorem sameLetter_congr_ascii {first second : Char} (ascii : first.toNat < 0x80)
    (alsoAscii : second.toNat < 0x80) (same : sameLetter first second = true) (third : Char) :
    sameLetter first third = sameLetter second third := by
  -- Without a theta, being the same letter is transitive.
  have again : sameLetter second first = true := by rwa [sameLetter_comm]
  rw [Bool.eq_iff_iff]
  constructor
  · intro left
    rw [sameLetter_trans again left, isThetaPair_of_ascii alsoAscii, Bool.not_false]
  · intro left
    rw [sameLetter_trans same left, isThetaPair_of_ascii ascii, Bool.not_false]

/-- A rune beyond ASCII has no small form among the ASCII letters. -/
theorem toLower_of_beyond {rune : Char} (beyond : 0x80 ≤ rune.toNat) : rune.toLower = rune := by
  -- Only the ASCII capitals are lowered.
  have small : ¬ (0x41 ≤ rune.val ∧ rune.val ≤ 0x5A) := by
    rintro ⟨_, last⟩
    have below : rune.toNat ≤ 0x5A := UInt32.le_iff_toNat_le.mp last
    omega
  exact dif_neg small

private theorem sameLetter_toLower_ascii : ∀ code < 0x80,
    (Char.ofNat code).toLower.toNat < 0x80 ∧
      sameLetter (Char.ofNat code).toLower (Char.ofNat code) = true := by
  -- Each of the ASCII runes can be looked at.
  decide +kernel

/-- The small form of an ASCII letter is the same letter as the same runes. -/
theorem sameLetter_toLower (rune other : Char) :
    sameLetter rune.toLower other = sameLetter rune other := by
  -- Beyond ASCII, there is no such form.
  rcases Nat.lt_or_ge rune.toNat 0x80 with ascii | beyond
  · obtain ⟨small, same⟩ := sameLetter_toLower_ascii rune.toNat ascii
    rw [Char.ofNat_toNat] at small same
    exact sameLetter_congr_ascii small ascii same other
  · rw [toLower_of_beyond beyond]

private theorem replacement_uncased : isLoneCapital '\uFFFD' = true ∧
    lower '\uFFFD' = ['\uFFFD'] ∧
    (strayCapitals.all fun rune => lower rune != ['\uFFFD']) = true := by
  -- Neither table mentions the replacement.
  decide +kernel

/-- The replacement is the same letter as nothing else. -/
theorem eq_of_sameLetter_replacement {rune : Char} (same : sameLetter '\uFFFD' rune = true) :
    rune = '\uFFFD' := by
  -- A rune that is lowered to the replacement would also be raised to it.
  obtain ⟨lone, small, strays⟩ := replacement_uncased
  rw [isLoneCapital, Bool.and_eq_true, beq_iff_eq, List.all_eq_true] at lone
  have raisedOnly : upper rune = ['\uFFFD'] → rune = '\uFFFD' := by
    intro capital
    exact beq_iff_eq.mp (lone.2 rune (mem_upperSources capital (by decide)))
  rcases sameLetter_iff.mp same with rfl | ⟨_, free, lowered | raised⟩
  · rfl
  · rw [small] at lowered
    by_cases stray : rune ∈ strayCapitals
    · have other := List.all_eq_true.mp strays rune stray
      rw [bne_iff_ne] at other
      exact absurd lowered.symm other
    · apply raisedOnly
      rw [← upper_lower stray free, ← lowered, List.flatMap_singleton, lone.1]
  · exact raisedOnly (raised.symm.trans lone.1)

end RuneScan.Unicode
