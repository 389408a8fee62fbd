import RuneScan.Proofs.Script.Stride

/-! What was passed since a mark lies between the two places, whatever way has led there. -/

namespace RuneScan

namespace Bytes

/-- Two stretches of bytes of which one begins where the other ends are one stretch. -/
theorem extract_append_extract (buffer : Bytes) {first middle last : Nat} (early : first ≤ middle)
    (late : middle ≤ last) :
    buffer.extract first middle ++ buffer.extract middle last = buffer.extract first last := by
  -- The second one is what is behind the first, counted from where that begins.
  have cut : buffer.drop middle = (buffer.drop first).drop (middle - first) := by
    rw [List.drop_drop, Nat.add_sub_cancel' early]
  have sizes : last - first = middle - first + (last - middle) := by omega
  rw [List.extract_eq_take_drop, List.extract_eq_take_drop, List.extract_eq_take_drop, cut, sizes,
    List.take_add]

end Bytes

namespace Cursor

/--
What was passed since a mark of the same buffer lies between the two places.

A mark that the cursor has not come to yet is told by as many bytes being left there, or more.
-/
theorem since_eq_extract {cursor mark : Cursor} (inside : cursor.InBuffer)
    (same : mark.buffer = cursor.buffer) :
    cursor.since mark = cursor.buffer.extract mark.offset cursor.offset := by
  -- Within the buffer, the numbers of remaining bytes are apart as far as the offsets are.
  have counts : mark.remaining - cursor.remaining = cursor.offset - mark.offset := by
    rw [InBuffer] at inside
    rw [remaining, remaining, same]
    omega
  rw [since, counts, rest, same]

/-- What was passed since a mark, in the buffer of the cursor, is what lies between the two. -/
structure CutsOut (cursor : Cursor) : Prop where
  /-- The cursor has passed no more than its buffer holds. -/
  inside : cursor.InBuffer
  /-- Since a mark that is not ahead, everything between the two places was passed. -/
  behind : ∀ mark : Cursor, mark.buffer = cursor.buffer → mark.offset ≤ cursor.offset →
    cursor.since mark = cursor.buffer.extract mark.offset cursor.offset
  /-- Since a mark that is ahead, nothing was passed. -/
  ahead : ∀ mark : Cursor, mark.buffer = cursor.buffer → cursor.offset < mark.offset →
    cursor.since mark = []
  /-- A mark in between cuts in two what was passed since an earlier one. -/
  between : ∀ first middle : Cursor, first.buffer = cursor.buffer → middle.buffer = cursor.buffer →
    first.offset ≤ middle.offset → middle.offset ≤ cursor.offset →
    cursor.since first = middle.since first ++ cursor.since middle

/-- To cut out what was passed, a cursor has to be in its buffer, and that is all. -/
theorem InBuffer.cutsOut {cursor : Cursor} (inside : cursor.InBuffer) : cursor.CutsOut := by
  -- All of it follows from where the two places lie in the buffer.
  refine ⟨inside, fun mark same _ => since_eq_extract inside same, ?_, ?_⟩
  · intro mark same beyond
    -- A stretch that would end before it begins holds nothing.
    rw [since_eq_extract inside same, List.extract_eq_take_drop,
      Nat.sub_eq_zero_of_le (Nat.le_of_lt beyond), List.take_zero]
  · intro first middle same alsoSame early late
    -- The mark in between is not behind the cursor, so it is in the buffer as well.
    have middleInside : middle.InBuffer := by
      rw [InBuffer, alsoSame]
      exact Nat.le_trans late inside
    rw [since_eq_extract inside same, since_eq_extract inside alsoSame,
      since_eq_extract middleInside (same.trans alsoSame.symm), alsoSame,
      Bytes.extract_append_extract _ early late]

/-- Whatever two places are compared, the bytes come from the front of what is left at the mark. -/
theorem since_prefix_rest (cursor mark : Cursor) :
    cursor.since mark <+: mark.rest ∧
      ((cursor.since mark).length : Int) = max 0 (mark.remaining - cursor.remaining) := by
  -- As many bytes are taken as the difference says, and there are that many.
  refine ⟨List.take_prefix .., ?_⟩
  rw [since, List.length_take, length_rest]
  omega

end Cursor

namespace Script

/-- Whether a step by itself opens no buffer but the given one. -/
def Step.opensOnly (buffer : Bytes) : Step → Bool
  | .place _ opened => opened == buffer
  -- All other steps stay with the buffers that are open.
  | _ => true

/-- Steps that open no other buffer stay in the one where they begin. -/
theorem keeps_buffer (buffer : Bytes) :
    Step.Keeps (Step.opensOnly buffer) (fun cursor => cursor.buffer = buffer) :=
  -- It is what they say of the buffers that they open.
  keeps_of_buffer (· = buffer) fun _ _ opens => beq_iff_eq.mp opens

/--
What was passed since a mark is what lies between the two places in the buffer, in every run.

It is so after each step, whatever way has led there, and a run that opens no other buffer stays in
its own. For a mark of any buffer, the bytes are those at the front of what is left there.
-/
theorem run_cutsOut (buffer : Bytes) (steps : List Step) :
    let ran := run (Session.start buffer) steps
    ran.session.All Cursor.CutsOut ∧
      (∀ report ∈ ran.report, report.Throughout Cursor.CutsOut) ∧
      (Step.allEvery (Step.opensOnly buffer) steps = true →
        ran.session.All (fun cursor => cursor.buffer = buffer) ∧
          ∀ report ∈ ran.report, report.Throughout fun cursor => cursor.buffer = buffer) ∧
      ∀ cursor mark : Cursor, cursor.since mark <+: mark.rest ∧
        ((cursor.since mark).length : Int) = max 0 (mark.remaining - cursor.remaining) := by
  intro ran
  -- No step leaves its buffer, and a cursor within it cuts out what lies between.
  have cuts : ∀ cursor : Cursor, cursor.InBuffer → cursor.CutsOut :=
    fun _ => Cursor.InBuffer.cutsOut
  have start : (Session.start buffer).All Cursor.InBuffer := Session.All.start (Nat.zero_le _)
  obtain ⟨inside, throughout⟩ :=
    keeps_inBuffer.run_all start (Step.allEvery_of_forall (fun _ => rfl) steps)
  refine ⟨inside.mono cuts, fun report member => (throughout report member).mono cuts, ?_,
    Cursor.since_prefix_rest⟩
  exact fun opens => (keeps_buffer buffer).run_all (Session.All.start rfl) opens

/-- Of a run that goes back and then ahead again, each mark tells the bytes up to where it ends. -/
theorem run_cutsOut_ahead :
    let steps : List Step := [.save "first", .move (.advance 4), .save "last", .revisit "first",
      .move .next, .save "middle", .revisit "last"]
    let ran := run (Session.start [0x61, 0xC3, 0xA9, 0xFF, 0x62]) steps
    Step.allEvery (Step.opensOnly [0x61, 0xC3, 0xA9, 0xFF, 0x62]) steps = true ∧
      ran.session.cursor.since (ran.session.mark "middle") = [0xC3, 0xA9, 0xFF] ∧
      ran.session.cursor.since (ran.session.mark "first") =
        (ran.session.mark "middle").since (ran.session.mark "first") ++
          ran.session.cursor.since (ran.session.mark "middle") := by
  intro steps ran
  have opens : Step.allEvery (Step.opensOnly [0x61, 0xC3, 0xA9, 0xFF, 0x62]) steps = true := by
    decide +kernel
  obtain ⟨cuts, _, stays, _⟩ := run_cutsOut [0x61, 0xC3, 0xA9, 0xFF, 0x62] steps
  have buffers := (stays opens).1
  -- Both marks are in the buffer of the cursor, since no other one was opened.
  have same : ∀ name, (ran.session.mark name).buffer = ran.session.cursor.buffer := fun name =>
    (buffers.mark name).trans buffers.cursor.symm
  refine ⟨opens, ?_, ?_⟩
  · rw [cuts.cursor.behind _ (same "middle") (by decide +kernel)]
    decide +kernel
  · exact cuts.cursor.between _ _ (same "first") (same "middle") (by decide +kernel)
      (by decide +kernel)

end Script

end RuneScan
