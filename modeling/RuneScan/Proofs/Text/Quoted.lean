import Mathlib.Tactic.SplitIfs
import RuneScan.Proofs.Text.Digits
import RuneScan.Text.Quoted

/-! A quoted rune can be told from every other one, and from whatever text stands before it. -/

namespace RuneScan.Text

/-- A mark of one of the two kinds that stand before and after quoted text. -/
def IsQuote (quote : Char) : Prop := quote = singleQuote ∨ quote = doubleQuote

/-- The runes that are escaped by a letter, each with its letter. -/
def lettered (quote : Char) : List (Char × Char) :=
  -- Of the two quotes, only the one that is used has to be escaped.
  [('\x00', '0'), ('\t', 't'), ('\r', 'r'), ('\n', 'n'), ('\\', '\\'), (quote, quote)]

/-- How a rune is written between quotes. -/
inductive WrittenAs (quote rune : Char) (word : List Char) : Prop where
  /-- By a letter behind a backslash. -/
  | letter (letter : Char) (listed : (rune, letter) ∈ lettered quote)
      (written : word = ['\\', letter])
  /-- By its number. -/
  | number (written : word = numbered rune)
  /-- As it is. -/
  | plain (written : word = [rune])

/-- Every rune is written in one of the three ways. -/
theorem writtenAs_escape (quote rune : Char) : WrittenAs quote rune (escape quote rune) := by
  -- The cases are those of the definition, of which five write a letter.
  have listed : ∀ letter, (rune, letter) ∈ lettered quote →
      WrittenAs quote rune ['\\', letter] := fun letter listed => .letter letter listed rfl
  rw [escape]
  split_ifs with nul tab carriage feed special unprinted
  · exact listed '0' (by simp [lettered, nul])
  · exact listed 't' (by simp [lettered, tab])
  · exact listed 'r' (by simp [lettered, carriage])
  · exact listed 'n' (by simp [lettered, feed])
  · exact listed rune (by rcases special with rfl | rfl <;> simp [lettered])
  · exact .number rfl
  · exact .plain rfl

variable {quote : Char}

/-- No letter stands for two runes. -/
theorem eq_of_lettered (kind : IsQuote quote) :
    ∀ first ∈ lettered quote, ∀ second ∈ lettered quote, first.2 = second.2 →
      first.1 = second.1 := by
  -- There are six letters, with either quote.
  rcases kind with rfl | rfl <;> decide

namespace WrittenAs

variable {first second rune : Char} {word : List Char}

/-- No word is written for two runes. -/
theorem unique (kind : IsQuote quote) (former : WrittenAs quote first word)
    (latter : WrittenAs quote second word) : first = second := by
  -- The three ways differ in length, and each of them tells its runes apart.
  cases former with
  | letter letter listed written =>
    cases latter with
    | letter other otherListed same =>
      have letters : letter = other := by simpa [written] using same
      exact eq_of_lettered kind _ listed _ otherListed letters
    | number same => simp [written, numbered] at same
    | plain same => simp [written] at same
  | number written =>
    cases latter with
    | letter other otherListed same => simp [written, numbered] at same
    | number same =>
      have digits : Nat.toDigits 16 first.toNat = Nat.toDigits 16 second.toNat := by
        simpa [written, numbered] using same
      exact Char.toNat_inj.mp (toDigits_injective (by decide) (Nat.le_refl 16) digits)
    | plain same => simp [written, numbered] at same
  | plain written =>
    cases latter with
    | letter other otherListed same => simp [written] at same
    | number same => simp [written, numbered] at same
    | plain same => simpa [written] using same

/-- Something is written for every rune. -/
theorem ne_nil (writes : WrittenAs quote rune word) : word ≠ [] := by
  -- Each of the three ways writes at least one character.
  cases writes with
  | letter letter listed written => simp [written]
  | number written => simp [written, numbered]
  | plain written => simp [written]

/-- A quote is written for a rune at the end of the word only. -/
theorem not_mem_dropLast (kind : IsQuote quote) (writes : WrittenAs quote rune word) :
    quote ∉ word.dropLast := by
  -- Neither quote is part of what stands around a letter or a number.
  have clear : quote ≠ '\\' ∧ quote ≠ 'u' ∧ quote ≠ '{' := by
    rcases kind with rfl | rfl <;> decide
  cases writes with
  | letter letter listed written => simp [written, clear]
  | number written =>
    -- No digit is a quote, and behind the digits there is a brace.
    have digits : quote ∉ Nat.toDigits 16 rune.toNat := by
      apply not_mem_toDigits (by decide)
      intro digit
      rcases kind with rfl | rfl <;> exact Nat.digitChar_ne _ rfl
    rw [written, numbered, List.dropLast_concat]
    simp [clear, digits]
  | plain written => simp [written]

end WrittenAs

/-- No two runes are written alike. -/
theorem escape_injective (kind : IsQuote quote) : Function.Injective (escape quote) := by
  -- What is written for both is one word, which is not written for two runes.
  intro first second same
  have former := writtenAs_escape quote first
  rw [same] at former
  exact former.unique kind (writtenAs_escape quote second)

/-- A quoted rune is told from the end, also where the text before it holds quotes. -/
theorem toldFromEnd_quoted (kind : IsQuote quote) :
    ToldFromEnd fun rune => quoted quote [rune] := by
  -- Once the closing quote is taken off, the mark is the quote before the word.
  have told := ToldFromEnd.of_mark (escape_injective kind)
    (fun rune => (writtenAs_escape quote rune).ne_nil)
    (fun rune => (writtenAs_escape quote rune).not_mem_dropLast kind)
  simpa [quoted] using told.before [quote]

end RuneScan.Text
