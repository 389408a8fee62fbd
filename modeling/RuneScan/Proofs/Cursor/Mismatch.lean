import RuneScan.Cursor.Mismatch
import RuneScan.Proofs.Text.Quoted

/-! The report of a demand that was not met tells what was demanded, what stood there, and where. -/

namespace RuneScan

open Text (ToldFromEnd)

namespace Encounter

/-- A rune is described in single quotes. -/
theorem toList_describe_rune (standing : Char) :
    (Encounter.rune standing).describe.toList = Text.quoted Text.singleQuote [standing] :=
  String.toList_ofList

/-- The words for a rune end with a quote, and those for the end of the input do not. -/
theorem append_describe_rune_ne (front other : List Char) (standing : Char) :
    front ++ (rune standing).describe.toList ≠ other ++ endOfInput.describe.toList := by
  -- The two would end with the same character.
  intro same
  have last := congrArg List.getLast? same
  rw [toList_describe_rune, Text.quoted, ← List.append_assoc, List.getLast?_concat] at last
  simp [describe, Text.singleQuote] at last

/-- What stands at a place is told from the end of every text that ends with its words. -/
theorem toldFromEnd_describe : ToldFromEnd fun found : Encounter => found.describe.toList := by
  -- Each of the two kinds is told from its words, and so are the kinds.
  intro front other first second same
  cases first with
  | rune standing =>
    cases second with
    | rune otherStanding =>
      simp only [toList_describe_rune] at same
      obtain ⟨fronts, runes⟩ := Text.toldFromEnd_quoted (Or.inl rfl) same
      exact ⟨fronts, congrArg Encounter.rune runes⟩
    | endOfInput => exact absurd same (append_describe_rune_ne front other standing)
  | endOfInput =>
    cases second with
    | rune otherStanding =>
      exact absurd same.symm (append_describe_rune_ne other front otherStanding)
    | endOfInput => exact ⟨List.append_cancel_right same, rfl⟩

/-- What stands at a place is told from its words. -/
theorem describe_injective : Function.Injective describe := fun _ _ same =>
  toldFromEnd_describe.injective (congrArg String.toList same)

end Encounter

namespace Mismatch

/-- How a report ends, behind the words for what was demanded. -/
def ending (finding : Encounter × Nat) : String :=
  -- Nothing in it depends on what was demanded.
  ", found " ++ finding.1.describe ++ " at byte " ++ finding.2.repr

/-- What was found, and where, is told from the end of a report. -/
theorem toldFromEnd_ending : ToldFromEnd fun finding => (ending finding).toList := by
  -- The place comes off first, and then what was found in front of it.
  have told := (Encounter.toldFromEnd_describe.after ", found ".toList).pair
    (Text.toldFromEnd_repr.after " at byte".toList)
  -- The blank in front of a number is what marks its beginning.
  have blank : " at byte ".toList = " at byte".toList ++ [' '] := rfl
  simpa only [ending, String.toList_append, blank, List.append_assoc, List.singleton_append]
    using told

/-- A report is its beginning with the words for what was demanded, and its ending. -/
theorem message_eq_append (mismatch : Mismatch) :
    mismatch.message =
      "expected " ++ mismatch.expected ++ ending (mismatch.found, mismatch.offset) := by
  -- It is put together of the same texts.
  simp only [message, ending, String.append_assoc]

/--
Reports are the same only of the same demand, finding and place.

The words for what was demanded may look like the rest of a report themselves, because the finding
and the place are told from the end. So are two findings from their words.
-/
theorem message_eq_iff :
    (∀ first second : Mismatch, first.message = second.message ↔
        first.expected = second.expected ∧ first.found = second.found ∧
          first.offset = second.offset) ∧
      ∀ first second : Encounter, first.describe = second.describe ↔ first = second := by
  refine ⟨?_, fun first second => Encounter.describe_injective.eq_iff⟩
  intro first second
  constructor
  · intro same
    -- The endings are told apart first, and what stands before them is the same then.
    rw [message_eq_append, message_eq_append] at same
    obtain ⟨fronts, findings⟩ := toldFromEnd_ending.of_texts same
    obtain ⟨founds, offsets⟩ := Prod.mk.inj findings
    exact ⟨(String.append_right_inj _).mp fronts, founds, offsets⟩
  · rintro ⟨expecteds, founds, offsets⟩
    rw [message, message, expecteds, founds, offsets]

/-- What was demanded may look like another report, which does not hide where this one was made. -/
example :
    (Mismatch.mk "x, found \x27b\x27 at byte 1" (.rune '\n') 12).message =
      "expected x, found \x27b\x27 at byte 1, found \x27\\n\x27 at byte 12" := by
  decide +kernel

end Mismatch

end RuneScan
