import RuneScan.Cursor.Mismatch

/-! What the steps of a script answer. -/

namespace RuneScan.Script

/-- What a step answers. -/
inductive Answer where
  /-- The step has nothing to say. -/
  | nothing
  /-- The step says yes or no. -/
  | flag (held : Bool)
  /-- The step counts something. -/
  | count (number : Nat)
  /-- The step gives bytes. -/
  | bytes (given : Bytes)
  /-- The step gives a rune. -/
  | rune (given : Char)
  /-- The step gives a text. -/
  | text (given : String)
  /-- The step demands something, and gives the rune that it is about, if it is about one. -/
  | demand (outcome : Except Mismatch (Option Char))

/-- Whether an answer lets a script go on. -/
def Answer.succeeded : Answer → Bool
  -- Only a no and an unmet demand hold a script up.
  | .flag held => held
  | .demand outcome => outcome.isOk
  | _ => true

/-- An answer, with the runes that a query was asked about on the way. -/
structure Response where
  /-- What the step answers. -/
  answer : Answer
  /-- The runes that were asked about, if the step asks a query. -/
  asked : Option (List Char)

/-- A response of a step that asks no query. -/
def Response.ofAnswer (answer : Answer) : Response := ⟨answer, none⟩

/-- A response of a step that asks a query. -/
def Response.ofInquiry (inquiry : Inquiry Answer) : Response := ⟨inquiry.result, inquiry.asked⟩

end RuneScan.Script
