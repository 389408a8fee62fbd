/-! Letter case as a table of runs, since neighbouring letters mostly change case alike. -/

namespace RuneScan.Unicode

/-- Equally spaced runes whose other case lies equally far away. -/
structure CaseRun where
  /-- The first scalar value of the run. -/
  first : Nat
  /-- The last scalar value of the run. -/
  last : Nat
  /-- The distance from each rune of the run to the next. -/
  step : Nat
  /-- The distance from a rune of the run to its other case. -/
  shift : Int

/-- Whether a rune belongs to the run. -/
def CaseRun.covers (run : CaseRun) (rune : Char) : Bool :=
  -- With a step of two, the runes in between are of the other case already.
  run.first ≤ rune.toNat && rune.toNat ≤ run.last && (rune.toNat - run.first) % run.step == 0

/-- The other case of a rune of the run. -/
def CaseRun.convert (run : CaseRun) (rune : Char) : Char :=
  -- The shift is negative where the other case comes earlier.
  Char.ofNat (rune.toNat + run.shift).toNat

/-- The forms that runes take in one of the cases. -/
structure CaseTable where
  /-- Runes whose form is one other rune. -/
  runs : List CaseRun
  /-- Runes whose form takes several runes, each with its form. -/
  several : List (Nat × List Nat)

/-- The form of a rune, which is the rune itself where the table does not name it. -/
def CaseTable.form (table : CaseTable) (rune : Char) : List Char :=
  -- No rune is both in a run and among those with longer forms.
  match table.several.lookup rune.toNat with
  | some codes => codes.map Char.ofNat
  | none =>
    match table.runs.find? (·.covers rune) with
    | some run => [run.convert rune]
    | none => [rune]

end RuneScan.Unicode
