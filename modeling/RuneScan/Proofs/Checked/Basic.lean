import Mathlib.Algebra.Group.Nat.Defs
import RuneScan.Proofs.Utf8.Cut
import RuneScan.Text.AnyCase

/-! Computing with machine numbers and slices, where a step that cannot be made is a fault. -/

namespace RuneScan

/-- Why a computation cannot be carried out. -/
inductive Fault where
  /-- A slice would go beyond the bytes that it is taken from. -/
  | outOfBounds
  /-- A number would be negative or take more than sixty-four bits. -/
  | overflow
  /-- A loop would not end. -/
  | endless
  deriving DecidableEq

/-- What a computation gives, unless there is a fault on the way. -/
abbrev Checked := Except Fault

namespace Checked

/-- What follows a computation without a fault goes on with what it gives. -/
@[simp] theorem ok_bind {α β : Type} (value : α) (next : α → Checked β) :
    (Except.ok value : Checked α) >>= next = next value := rfl

/-- What is simply returned is given without a fault. -/
@[simp] theorem pure_eq_ok {α : Type} (value : α) : (pure value : Checked α) = .ok value := rfl

/-- The sum of two numbers. -/
def add (first second : Nat) : Checked Nat :=
  if first + second < 2 ^ 64 then .ok (first + second) else .error .overflow

/-- The difference of two numbers. -/
def sub (first second : Nat) : Checked Nat :=
  if second ≤ first then .ok (first - second) else .error .overflow

/-- The bytes from one place up to another. -/
def slice (bytes : Bytes) (start stop : Nat) : Checked Bytes :=
  if start ≤ stop ∧ stop ≤ bytes.length then .ok ((bytes.take stop).drop start)
  else .error .outOfBounds

/-- A small enough sum is that of the numbers. -/
theorem add_eq {first second : Nat} (small : first + second < 2 ^ 64) :
    add first second = .ok (first + second) := if_pos small

/-- Less can be taken from more. -/
theorem sub_eq {first second : Nat} (order : second ≤ first) :
    sub first second = .ok (first - second) := if_pos order

/-- A slice from a place up to the end leaves out what comes before. -/
theorem slice_to_end {bytes : Bytes} {start : Nat} (within : start ≤ bytes.length) :
    slice bytes start bytes.length = .ok (bytes.drop start) := by
  -- Cutting behind the last byte cuts nothing off.
  rw [slice, if_pos ⟨within, Nat.le_refl _⟩, List.take_length]

/-- A slice from the beginning is what stands in front. -/
theorem slice_from_start {bytes : Bytes} {stop : Nat} (within : stop ≤ bytes.length) :
    slice bytes 0 stop = .ok (bytes.take stop) := by
  -- Nothing stands before the first byte.
  rw [slice, if_pos ⟨Nat.zero_le _, within⟩, List.drop_zero]

/-- How many bytes the first byte of a form announces, itself included. -/
def announced (lead : UInt8) : Nat := ((Utf8.Lead.of? lead).map (·.tails + 1)).getD 1

/-- Reads the first rune, out of as many bytes as its first byte announces. -/
def read (view : Bytes) : Checked Utf8.Reading :=
  match view.head? with
  | none => return ⟨Utf8.replacement, 0⟩
  | some lead =>
    -- A byte of ASCII is a rune by itself.
    if lead < 0x80 then return ⟨Char.ofNat lead.toNat, 1⟩
    -- A form that is cut off is not decoded.
    else if announced lead = 1 ∨ view.length < announced lead then return ⟨Utf8.replacement, 1⟩
    else do
      let form ← slice view 0 (announced lead)
      match Utf8.scalar? form with
      | some rune => return ⟨rune, announced lead⟩
      | none => return ⟨Utf8.replacement, 1⟩

/-- Whether the readings of two views pair up as the same letters. -/
def sameLetters (left right : Bytes) : Checked Bool := do
  -- Both views are read before it is looked at whether they have anything left.
  let first ← read left
  let second ← read right
  if first.width = 0 ∧ second.width = 0 then return true
  else if first.width = 0 ∨ second.width = 0 then return false
  else if !Unicode.sameLetter first.rune second.rune then return false
  else
    -- What is read of either view is within it.
    let rest ← slice left first.width left.length
    let others ← slice right second.width right.length
    if rest.length < left.length then sameLetters rest others else throw .endless
termination_by left.length

/-- Whether two views hold the same text, up to letter case. -/
def equalAnyCase (left right : Bytes) : Checked Bool :=
  -- Bytes of ASCII are compared as they stand, one to one.
  if Bytes.isAscii left && Bytes.isAscii right then
    return left.map Text.lowerByte == right.map Text.lowerByte
  else sameLetters left right

/-- A rune beyond ASCII takes as many bytes as its first byte announces, and more than one. -/
theorem announced_eq {view : Bytes} {lead : UInt8} {rune : Char} (beyond : ¬ lead < 0x80)
    (decoded : Utf8.scalar? (lead :: view) = some rune) :
    announced lead = rune.utf8Size ∧ 1 < announced lead := by
  -- The first byte of its encoding tells the form.
  have encoded := Utf8.scalar?_eq_some_iff.mp decoded
  have high : 0x80 ≤ rune.toNat := by
    have reads := Utf8.read_beyond_ascii beyond view
    rwa [Utf8.read, decoded] at reads
  obtain ⟨first, form, announces, _, _, whole⟩ := Utf8.exists_lead high
  have width := Utf8.encodeRune_length rune
  rw [whole, List.length_cons, Utf8.length_tailBytes] at width
  rw [whole, List.cons_prefix_cons] at encoded
  obtain ⟨rfl, _⟩ := encoded
  rw [announced, announces, Option.map_some, Option.getD_some, width]
  refine ⟨rfl, ?_⟩
  rcases Utf8.Lead.of?_eq_some_iff.mp announces with kind | kind | kind <;> omega

/-- No rune begins where the first byte announces too little, or more than there is. -/
theorem scalar?_of_short {rest : Bytes} {lead : UInt8} (beyond : ¬ lead < 0x80)
    (short : announced lead = 1 ∨ (lead :: rest).length < announced lead) :
    Utf8.scalar? (lead :: rest) = none := by
  -- A rune would have a whole form of several bytes.
  cases decoded : Utf8.scalar? (lead :: rest) with
  | none => rfl
  | some rune =>
    -- Its width is what is announced, which is within the view.
    obtain ⟨width, wide⟩ := announced_eq beyond decoded
    have within := Utf8.read_width_le (lead :: rest)
    rw [Utf8.read, decoded] at within
    rcases short with single | cut
    · exact absurd single (Nat.ne_of_gt wide)
    · rw [width] at cut
      exact absurd within (Nat.not_le_of_lt cut)

/-- No rune is missed for want of bytes, so reading has no fault and reads the same. -/
theorem read_eq (view : Bytes) : read view = .ok (Utf8.read view) := by
  -- The cases are those of the computation, which looks at the first byte before all else.
  cases view with
  | nil => rfl
  | cons lead rest =>
    simp only [read, List.head?_cons]
    split
    · rename_i ascii
      rw [Utf8.read_ascii ascii]
      rfl
    · rename_i beyond
      split
      · rename_i short
        rw [Utf8.read_of_malformed (scalar?_of_short beyond short)]
        rfl
      · rename_i whole
        rw [slice_from_start (by omega), ok_bind]
        -- A rune is found in the slice exactly if one is found in the view.
        cases decoded : Utf8.scalar? (lead :: rest) with
        | some rune =>
          obtain ⟨width, _⟩ := announced_eq beyond decoded
          rw [Utf8.scalar?_take_iff.mpr ⟨decoded, Nat.le_of_eq width.symm⟩, Utf8.read, decoded,
            width]
          rfl
        | none =>
          -- A rune in the slice would begin the whole view too.
          have cut : Utf8.scalar? ((lead :: rest).take (announced lead)) = none := by
            rw [Option.eq_none_iff_forall_ne_some]
            intro rune found
            rw [(Utf8.scalar?_take_iff.mp found).1] at decoded
            contradiction
          rw [cut, Utf8.read_of_malformed decoded]
          rfl

/-- Comparing two views has no fault, and it comes to the same. -/
theorem sameLetters_eq (left right : Bytes) :
    sameLetters left right = .ok (Text.sameLetters left right) := by
  -- Each round takes one reading off both views.
  induction left, right using Text.sameLetters.induct with
  | case1 =>
    rw [sameLetters, Text.sameLetters, read_eq, ok_bind, ok_bind]
    rfl
  | case2 other others =>
    -- A reading of something takes bytes up, so that only one of the widths is zero.
    have taken := Utf8.read_width_pos other others
    rw [sameLetters, Text.sameLetters, read_eq, read_eq, ok_bind, ok_bind, if_neg (by omega)]
    rfl
  | case3 first rest =>
    have taken := Utf8.read_width_pos first rest
    rw [sameLetters, Text.sameLetters, read_eq, read_eq, ok_bind, ok_bind, if_neg (by omega)]
    simp
  | case4 first rest other others left right ih =>
    have taken := Utf8.read_width_pos first rest
    have both := Utf8.read_width_pos other others
    have fewer := Utf8.length_drop_read_lt first rest
    rw [sameLetters, Text.sameLetters, read_eq, read_eq, ok_bind, ok_bind, if_neg (by omega),
      if_neg (by omega)]
    cases same : Unicode.sameLetter left.rune right.rune with
    | false => rfl
    | true =>
      -- What is left of both views after their readings is taken without a fault.
      rw [slice_to_end (Utf8.read_width_le _), slice_to_end (Utf8.read_width_le _)]
      simp only [Bool.not_true, Bool.false_eq_true, if_false, Bool.true_and, ok_bind, fewer,
        if_true]
      exact ih

/-- Nor has comparing them as texts. -/
theorem equalAnyCase_eq (left right : Bytes) :
    equalAnyCase left right = .ok (Text.equalAnyCase left right) := by
  -- The fast path takes no slices.
  rw [equalAnyCase, Text.equalAnyCase]
  split
  · rfl
  · exact sameLetters_eq left right

end Checked

end RuneScan
