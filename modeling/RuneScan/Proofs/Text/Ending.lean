/-! Words that end a text can be told off its end, whatever text stands before them. -/

namespace RuneScan.Text

variable {α β : Type}

/-- A text that ends with one of some words ends with no other one of them. -/
def ToldFromEnd (word : α → List Char) : Prop :=
  -- The text before the word is told as well.
  ∀ ⦃front other : List Char⦄ ⦃first second : α⦄,
    front ++ word first = other ++ word second → front = other ∧ first = second

namespace ToldFromEnd

variable {word : α → List Char}

/-- Words that are told from the end are told from one another. -/
theorem injective (told : ToldFromEnd word) : Function.Injective word := by
  -- Nothing has to stand before the words.
  intro first second same
  have fronts : [] ++ word first = [] ++ word second := same
  exact (told fronts).2

/-- Texts that end with the words are told apart as their runes are. -/
theorem of_texts {text : α → String} (told : ToldFromEnd fun value => (text value).toList)
    {front other : String} {first second : α} (same : front ++ text first = other ++ text second) :
    front = other ∧ first = second := by
  -- Texts with the same runes are the same.
  have runes := congrArg String.toList same
  rw [String.toList_append, String.toList_append] at runes
  obtain ⟨fronts, values⟩ := told runes
  exact ⟨String.toList_inj.mp fronts, values⟩

/-- What stands before the words is part of the text before them. -/
theorem after (told : ToldFromEnd word) (glue : List Char) :
    ToldFromEnd fun value => glue ++ word value := by
  -- The glue belongs to what stands before, on both sides.
  intro front other first second same
  rw [← List.append_assoc, ← List.append_assoc] at same
  obtain ⟨fronts, values⟩ := told same
  exact ⟨List.append_cancel_right fronts, values⟩

/-- What stands after all the words can be taken off first. -/
theorem before (told : ToldFromEnd word) (glue : List Char) :
    ToldFromEnd fun value => word value ++ glue := by
  -- The glue ends both texts.
  intro front other first second same
  rw [← List.append_assoc, ← List.append_assoc] at same
  exact told (List.append_cancel_right same)

/-- Words after words are taken off one after another. -/
theorem pair {words : β → List Char} (told : ToldFromEnd word) (later : ToldFromEnd words) :
    ToldFromEnd fun values : α × β => word values.1 ++ words values.2 := by
  -- The later words end the text, and the others end what is left of it.
  intro front other values others same
  rw [← List.append_assoc, ← List.append_assoc] at same
  obtain ⟨fronts, lasts⟩ := later same
  obtain ⟨texts, firsts⟩ := told fronts
  exact ⟨texts, Prod.ext firsts lasts⟩

/--
Words behind a mark are told from the end if they hold the mark nowhere but at their own end.

The mark before the shorter one of two words would otherwise stand inside of the longer one.
-/
theorem of_mark {mark : Char} (different : Function.Injective word)
    (filled : ∀ value, word value ≠ []) (clear : ∀ value, mark ∉ (word value).dropLast) :
    ToldFromEnd fun value => mark :: word value := by
  -- Where a mark with one word ends in a mark with another, nothing comes before the latter.
  have whole : ∀ (inner : List Char) (first second : α),
      mark :: word first = inner ++ mark :: word second → inner = [] ∧ first = second := by
    intro inner first second ends
    cases inner with
    | nil =>
      rw [List.nil_append, List.cons.injEq] at ends
      exact ⟨rfl, different ends.2⟩
    | cons rune inner =>
      rw [List.cons_append, List.cons.injEq] at ends
      -- The second mark would stand within the first word, and before its end.
      obtain ⟨next, rest, behind⟩ := List.exists_cons_of_ne_nil (filled second)
      apply absurd _ (clear first)
      rw [ends.2, behind, List.dropLast_append_cons, List.dropLast_cons_cons]
      exact List.mem_append_right _ (List.mem_cons_self ..)
  intro front other first second same
  -- One of the two texts before is as long as the other one, or longer.
  rcases List.append_eq_append_iff.mp same with ⟨inner, rfl, ends⟩ | ⟨inner, rfl, ends⟩
  · obtain ⟨rfl, values⟩ := whole inner first second ends
    exact ⟨(List.append_nil front).symm, values⟩
  · obtain ⟨rfl, values⟩ := whole inner second first ends
    exact ⟨List.append_nil other, values.symm⟩

end ToldFromEnd

end RuneScan.Text
