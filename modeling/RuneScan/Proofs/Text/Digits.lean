import RuneScan.Proofs.Text.Ending

/-! A number can be told from every other one by its digits, and off the end of a text as well. -/

namespace RuneScan.Text

private theorem eq_of_digitChar_eq : ∀ first < 16, ∀ second < 16,
    Nat.digitChar first = Nat.digitChar second → first = second := by
  decide

/-- The last digit of a number is behind the digits of the others, if it has any. -/
theorem toDigits_eq_append {base : Nat} (proper : 1 < base) (number : Nat) :
    Nat.toDigits base number =
      (if number < base then [] else Nat.toDigits base (number / base)) ++
        [Nat.digitChar (number % base)] := by
  -- A number below the base is its own remainder.
  rw [Nat.toDigits_eq_if proper]
  split
  · rename_i single
    rw [Nat.mod_eq_of_lt single, List.nil_append]
  · rfl

/-- A number is told by its digits, which go up to the letter f. -/
theorem toDigits_injective {base : Nat} (proper : 1 < base) (small : base ≤ 16) :
    Function.Injective (Nat.toDigits base) := by
  intro first
  -- The induction takes the last digit off both numbers.
  induction first using Nat.strongRecOn with
  | ind first ih =>
    intro second same
    rw [toDigits_eq_append proper first, toDigits_eq_append proper second] at same
    obtain ⟨others, last⟩ := List.append_inj' same rfl
    rw [List.cons.injEq] at last
    have remainders : first % base = second % base := by
      have within : ∀ number, number % base < 16 := fun number =>
        Nat.lt_of_lt_of_le (Nat.mod_lt number (by omega)) small
      exact eq_of_digitChar_eq _ (within first) _ (within second) last.1
    -- One of them may have a single digit only if the other one does.
    have quotients : first / base = second / base := by
      split at others
      · split at others
        · rename_i single other
          rw [Nat.div_eq_of_lt single, Nat.div_eq_of_lt other]
        · exact absurd others.symm Nat.toDigits_ne_nil
      · split at others
        · exact absurd others Nat.toDigits_ne_nil
        · exact ih _ (Nat.div_lt_self (by omega) proper) others
    rw [← Nat.div_add_mod first base, ← Nat.div_add_mod second base, quotients, remainders]

/-- Only digits stand in a number. -/
theorem not_mem_toDigits {base : Nat} (proper : 1 < base) {mark : Char}
    (other : ∀ digit, Nat.digitChar digit ≠ mark) (number : Nat) :
    mark ∉ Nat.toDigits base number := by
  -- The induction takes the last digit off.
  induction number using Nat.strongRecOn with
  | ind number ih =>
    rw [toDigits_eq_append proper]
    have last := (other (number % base)).symm
    split
    · simpa using last
    · have before := ih _ (Nat.div_lt_self (by omega) proper)
      simpa [before] using last

/-- A number behind a blank is told from the end. -/
theorem toldFromEnd_repr : ToldFromEnd fun number : Nat => ' ' :: number.repr.toList := by
  -- No digit is a blank, so that the blank before the number is the last one.
  simp only [Nat.toList_repr]
  apply ToldFromEnd.of_mark
  · exact toDigits_injective (by decide) (by decide)
  · exact fun _ => Nat.toDigits_ne_nil
  · intro number
    have blank : ' ' ∉ Nat.toDigits 10 number :=
      not_mem_toDigits (by decide) (fun _ => Nat.digitChar_ne _ rfl) number
    exact fun member => blank ((List.dropLast_sublist _).subset member)

end RuneScan.Text
