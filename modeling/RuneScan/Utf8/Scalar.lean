import RuneScan.Bytes.Basic

/-! The scalar value, if any, whose encoding begins a stretch of bytes. -/

namespace RuneScan.Utf8

/-- What the first byte of a form of several bytes says about the rest of it. -/
structure Lead where
  /-- The high bits of the scalar value. -/
  payload : Nat
  /-- How many continuation bytes follow. -/
  tails : Nat
  /-- The least scalar value of this form, below which a shorter form exists. -/
  least : Nat

/-- The form that a byte announces, if it can begin one of several bytes. -/
def Lead.of? (byte : UInt8) : Option Lead :=
  -- The number of leading one bits is the number of bytes in the form.
  if byte < 0xC0 then none
  else if byte < 0xE0 then some ⟨byte.toNat - 0xC0, 1, 0x80⟩
  else if byte < 0xF0 then some ⟨byte.toNat - 0xE0, 2, 0x800⟩
  else if byte < 0xF8 then some ⟨byte.toNat - 0xF0, 3, 0x10000⟩
  else none

/-- Whether a byte can only stand inside a form, never at its beginning. -/
def continues (byte : UInt8) : Bool :=
  -- The two high bits of a continuation byte are a one and a zero.
  0x80 ≤ byte && byte < 0xC0

/-- Appends the payload of each of the next continuation bytes to a value. -/
def extend : Nat → Nat → Bytes → Option Nat
  -- Each continuation byte carries six more bits.
  | 0, value, _ => some value
  | _ + 1, _, [] => none
  | tails + 1, value, byte :: rest =>
    if continues byte then extend tails (value * 64 + (byte.toNat - 0x80)) rest else none

/-- The scalar value whose encoding begins the bytes, if there is one. -/
def scalar? : Bytes → Option Char
  | [] => none
  | first :: rest =>
    if first < 0x80 then some (Char.ofNat first.toNat)
    else do
      let lead ← Lead.of? first
      let value ← extend lead.tails lead.payload rest
      -- Overlong forms, surrogates and values past the last scalar value stand for nothing.
      if lead.least ≤ value ∧ value.isValidChar then some (Char.ofNat value) else none

end RuneScan.Utf8
