/-! Raw bytes, and where some of them occur in others. -/

namespace RuneScan

/-- A stretch of raw bytes, whether or not it is well-formed text. -/
abbrev Bytes := List UInt8

namespace Bytes

/-- The leftmost offset at which a needle occurs, which is zero for an empty needle. -/
def occurrence? (needle : Bytes) : Bytes → Option Nat
  -- Every offset is tried in turn, the one past the last byte included.
  | [] => if needle.isEmpty then some 0 else none
  | byte :: rest =>
    if needle.isPrefixOf (byte :: rest) then some 0 else (occurrence? needle rest).map (· + 1)

/-- The leftmost offset of a byte that is among the wanted ones. -/
def anyOf? (wanted bytes : Bytes) : Option Nat :=
  -- The bytes are compared one at a time, whatever text they belong to.
  bytes.findIdx? fun byte => wanted.contains byte

/-- Whether every byte stands for an ASCII rune by itself. -/
def isAscii (bytes : Bytes) : Bool :=
  -- The upper half of the byte values belongs to longer forms.
  bytes.all (· < 0x80)

/-- Bytes are ASCII if each of them is. -/
theorem isAscii_iff {bytes : Bytes} : isAscii bytes = true ↔ ∀ byte ∈ bytes, byte < 0x80 := by
  -- Every byte is compared.
  simp [isAscii]

/-- Bytes are ASCII if the first one is, and those behind it are. -/
theorem isAscii_cons_iff {byte : UInt8} {rest : Bytes} :
    isAscii (byte :: rest) = true ↔ byte < 0x80 ∧ isAscii rest = true := by
  -- The bytes are compared one after another.
  rw [isAscii_iff, List.forall_mem_cons, isAscii_iff]

end Bytes

end RuneScan
