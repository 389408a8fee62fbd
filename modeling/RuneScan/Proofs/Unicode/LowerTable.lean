import RuneScan.Proofs.Unicode.CaseTable
import RuneScan.Unicode.Letter

/-! Lowering a letter keeps its upper-case form, but for a few capitals. -/

namespace RuneScan.Unicode

/-- The capitals that are not the upper-case form of their small letter. -/
def strayCapitals : List Char :=
  -- These are the theta symbol, the sharp s, and the signs for ohm, kelvin and angstrom.
  ['\u03F4', '\u1E9E', '\u2126', '\u212A', '\u212B']

/-- Whether the runes of a run keep their upper-case form when they are converted. -/
def keepsUpper (run : CaseRun) : Bool :=
  -- Only the parts of the table around the run and around its target are searched.
  let near := upperTable.within run.first run.last
  let far := upperTable.within (run.first + run.shift).toNat (run.last + run.shift).toNat
  run.runes.all fun rune => strayCapitals.contains rune ||
    0x80 ≤ (run.convert rune).toNat && near.form rune == far.form (run.convert rune)

/-- A run that keeps upper-case forms keeps that of each rune that it converts. -/
theorem upper_convert {run : CaseRun} {rune : Char} (keeps : keepsUpper run = true)
    (covered : run.covers rune = true) (regular : rune ∉ strayCapitals)
    (beyond : ¬ rune.toNat < 0x80) : upper (run.convert rune) = upper rune := by
  -- The rune was checked with the parts of the table around it and around its small letter.
  have kept := List.all_eq_true.mp keeps rune (CaseRun.mem_runes_of_covers covered)
  rw [Bool.or_eq_true, Bool.and_eq_true, List.contains_iff_mem, decide_eq_true_iff,
    beq_iff_eq] at kept
  rcases kept with stray | ⟨far, same⟩
  · contradiction
  have nonzero : run.convert rune ≠ '\x00' := by
    intro zero
    rw [zero] at far
    contradiction
  have value : (run.convert rune).toNat = (rune.toNat + run.shift).toNat :=
    toNat_eq_of_ofNat_eq rfl nonzero
  simp only [CaseRun.covers, Bool.and_eq_true, decide_eq_true_eq] at covered
  rw [CaseTable.form_within covered.1.1 covered.1.2,
    CaseTable.form_within (by omega) (by omega)] at same
  rw [upper, upper, if_neg beyond, if_neg (by omega), same]

/-- All runs of the lower-case table keep the upper-case form, but for the stray capitals. -/
theorem lowerRuns_keepsUpper : lowerRuns.all keepsUpper = true := by decide +kernel

private theorem upper_lower_ascii : ∀ code < 0x80,
    (lower (Char.ofNat code)).flatMap upper = upper (Char.ofNat code) := by
  -- Each of the ASCII runes can be looked at.
  decide +kernel

/-- Lowering a rune keeps its upper-case form, but for stray capitals and letters i. -/
theorem upper_lower {rune : Char} (regular : rune ∉ strayCapitals)
    (free : isLocaleBound rune = false) : (lower rune).flatMap upper = upper rune := by
  -- Beyond ASCII, a rune is either its own lower-case form or belongs to a run that was checked.
  by_cases ascii : rune.toNat < 0x80
  · have checked := upper_lower_ascii rune.toNat ascii
    rwa [Char.ofNat_toNat] at checked
  rw [lower, if_neg ascii]
  rcases lowerTable.form_cases rune with
    ⟨codes, listed, _⟩ | ⟨run, member, covered, formed⟩ | formed
  · exfalso
    rw [lowerTable, List.mem_singleton, Prod.mk.injEq] at listed
    have dotted : rune = '\u0130' := by
      rw [← Char.ofNat_toNat rune, listed.1]
    rw [dotted] at free
    contradiction
  · have keeps := List.all_eq_true.mp lowerRuns_keepsUpper run member
    rw [formed, List.flatMap_singleton, upper_convert keeps covered regular ascii]
  · rw [formed, List.flatMap_singleton]

end RuneScan.Unicode
