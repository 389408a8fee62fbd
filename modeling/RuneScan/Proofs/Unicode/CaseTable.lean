import RuneScan.Proofs.Utf8.Decoding
import RuneScan.Unicode.CaseTable

/-! What a table of letter case says about a rune, and which runes can have a form. -/

namespace RuneScan.Unicode

/-- The runes of a run, from the first to the last. -/
def CaseRun.runes (run : CaseRun) : List Char :=
  -- The runes in between two steps do not belong to the run.
  (List.range ((run.last - run.first) / run.step + 1)).map fun place =>
    Char.ofNat (run.first + place * run.step)

/-- A run covers no runes but its own. -/
theorem CaseRun.mem_runes_of_covers {run : CaseRun} {rune : Char}
    (covered : run.covers rune = true) : rune ∈ run.runes := by
  -- The place of the rune is its distance from the first one, counted in steps.
  simp only [covers, Bool.and_eq_true, decide_eq_true_eq, beq_iff_eq] at covered
  obtain ⟨⟨lower, upper⟩, spaced⟩ := covered
  have counted := Nat.div_add_mod (rune.toNat - run.first) run.step
  have place : (rune.toNat - run.first) / run.step ≤ (run.last - run.first) / run.step :=
    Nat.div_le_div_right (by omega)
  rw [runes, List.mem_map]
  refine ⟨(rune.toNat - run.first) / run.step, List.mem_range.mpr (by omega), ?_⟩
  rw [Nat.mul_comm, show run.first + run.step * ((rune.toNat - run.first) / run.step) =
    rune.toNat by omega, Char.ofNat_toNat]

/-- Unless it is the zero that stands for invalid values, a rune has the value it was made of. -/
theorem toNat_eq_of_ofNat_eq {value : Nat} {rune : Char} (made : Char.ofNat value = rune)
    (nonzero : rune ≠ '\x00') : rune.toNat = value := by
  -- An invalid value is replaced by zero.
  subst made
  by_cases valid : value.isValidChar
  · exact Utf8.toNat_ofNat valid
  · exfalso
    apply nonzero
    rw [Char.ofNat, dif_neg valid]
    rfl

/-- The rune of a run that the run takes to a given rune, if there is one. -/
def CaseRun.source? (run : CaseRun) (target : Char) : Option Char :=
  -- The shift is undone, which leads out of the run for most targets.
  let source := Char.ofNat (target.toNat - run.shift).toNat
  if run.covers source then some source else none

/-- Undoing the shift of a run leads back to the rune. -/
theorem CaseRun.source?_convert {run : CaseRun} {rune : Char} (covered : run.covers rune = true)
    (nonzero : run.convert rune ≠ '\x00') : run.source? (run.convert rune) = some rune := by
  -- The shifted value is positive, so it was not cut off at zero.
  have value : (run.convert rune).toNat = (rune.toNat + run.shift).toNat :=
    toNat_eq_of_ofNat_eq rfl nonzero
  have positive : 0 < (run.convert rune).toNat := by
    apply Nat.pos_of_ne_zero
    intro zero
    apply nonzero
    rw [← Char.ofNat_toNat (run.convert rune), zero]
  have back : ((run.convert rune).toNat - run.shift).toNat = rune.toNat := by omega
  rw [source?, back, Char.ofNat_toNat, if_pos covered]

namespace CaseTable

/-- A form is that of a several-rune entry, or that of a run, or the rune itself. -/
theorem form_cases (table : CaseTable) (rune : Char) :
    (∃ codes, (rune.toNat, codes) ∈ table.several ∧ table.form rune = codes.map Char.ofNat) ∨
      (∃ run ∈ table.runs, run.covers rune = true ∧ table.form rune = [run.convert rune]) ∨
      table.form rune = [rune] := by
  -- The cases are those of the two searches.
  rw [form]
  cases listed : table.several.lookup rune.toNat with
  | some codes =>
    obtain ⟨before, after, split, _⟩ := List.lookup_eq_some_iff.mp listed
    exact Or.inl ⟨codes, by rw [split]; simp, rfl⟩
  | none =>
    cases found : table.runs.find? (·.covers rune) with
    | some run =>
      have covered := List.find?_some found
      exact Or.inr (Or.inl ⟨run, List.mem_of_find?_eq_some found, covered, rfl⟩)
    | none => exact Or.inr (Or.inr rfl)

/-- The part of a table that concerns scalar values within bounds. -/
def within (table : CaseTable) (low high : Nat) : CaseTable where
  -- A run is kept as a whole if any of it may lie within.
  runs := table.runs.filter fun run => Nat.ble run.first high && Nat.ble low run.last
  several := table.several.filter fun entry => Nat.ble low entry.1 && Nat.ble entry.1 high

private theorem lookup_filter {entries : List (Nat × List Nat)} {keep : Nat × List Nat → Bool}
    {key : Nat} (kept : ∀ codes, keep (key, codes) = true) :
    (entries.filter keep).lookup key = entries.lookup key := by
  -- The first entry of the key is never left out.
  induction entries with
  | nil => rfl
  | cons entry rest ih =>
    obtain ⟨other, codes⟩ := entry
    by_cases same : key = other
    · subst same
      rw [List.filter_cons_of_pos (kept codes)]
      simp
    · rw [List.lookup_cons, beq_eq_false_iff_ne.mpr same]
      cases kept : keep (other, codes) with
      | true =>
        rw [List.filter_cons_of_pos kept, List.lookup_cons, beq_eq_false_iff_ne.mpr same, ih]
      | false => rw [List.filter_cons_of_neg (by simp [kept]), ih]

/-- The part of a table around a rune gives the form that the whole table gives. -/
theorem form_within {table : CaseTable} {low high : Nat} {rune : Char} (lower : low ≤ rune.toNat)
    (upper : rune.toNat ≤ high) : (table.within low high).form rune = table.form rune := by
  -- Neither an entry of the rune nor a run that covers it is left out.
  have listed : (table.within low high).several.lookup rune.toNat =
      table.several.lookup rune.toNat := by
    rw [within]
    apply lookup_filter
    intro codes
    simp [lower, upper]
  have covering : (fun run : CaseRun =>
      decide ((Nat.ble run.first high && Nat.ble low run.last) = true ∧
        run.covers rune = true)) = fun run => run.covers rune := by
    funext run
    rw [Bool.eq_iff_iff, decide_eq_true_iff, and_iff_right_iff_imp]
    intro covered
    simp only [CaseRun.covers, Bool.and_eq_true, decide_eq_true_eq] at covered
    simp only [Bool.and_eq_true, Nat.ble_eq]
    omega
  have found : (table.within low high).runs.find? (·.covers rune) =
      table.runs.find? (·.covers rune) := by
    rw [within, List.find?_filter, covering]
  rw [form, form, listed, found]

/-- The runes that can have a given form. -/
def sources (table : CaseTable) (form : List Char) : List Char :=
  -- A single rune can be the form of itself or of a rune of a run, and any form can be listed.
  ((table.several.filter fun entry => entry.2.map Char.ofNat == form).map fun entry =>
    Char.ofNat entry.1) ++
    match form with
    | [target] => target :: table.runs.filterMap (·.source? target)
    | _ => []

/-- Every rune is among the sources of its form. -/
theorem mem_sources {table : CaseTable} {rune : Char} {form : List Char}
    (formed : table.form rune = form) (nonzero : '\x00' ∉ form) : rune ∈ table.sources form := by
  -- The parts of the sources answer to the three cases of a form.
  subst formed
  unfold sources
  rw [List.mem_append]
  rcases table.form_cases rune with
    ⟨codes, listed, formed⟩ | ⟨run, member, covered, formed⟩ | formed
  · left
    rw [List.mem_map]
    refine ⟨(rune.toNat, codes), ?_, Char.ofNat_toNat rune⟩
    rw [List.mem_filter]
    exact ⟨listed, by simp [formed]⟩
  · right
    rw [formed, List.mem_singleton] at nonzero
    rw [formed]
    apply List.mem_cons_of_mem
    rw [List.mem_filterMap]
    exact ⟨run, member, CaseRun.source?_convert covered (Ne.symm nonzero)⟩
  · right
    rw [formed]
    exact List.mem_cons_self ..

end CaseTable

end RuneScan.Unicode
