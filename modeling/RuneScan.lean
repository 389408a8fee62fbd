import RuneScan.Script.RuneTest
import RuneScan.Script.Step
import RuneScan.Proofs.Utf8.Reading
import RuneScan.Proofs.Bytes.Search
import RuneScan.Proofs.Cursor.Stepping
import RuneScan.Proofs.Cursor.Walk
import RuneScan.Proofs.Cursor.Skip
import RuneScan.Proofs.Unicode.CaseTable
import RuneScan.Proofs.Unicode.Letter
import RuneScan.Proofs.Cursor.Accept
import RuneScan.Proofs.Utf8.WellFormed
import RuneScan.Proofs.Cursor.Passage
import RuneScan.Proofs.Cursor.Boundary
import RuneScan.Proofs.Cursor.Loops
import RuneScan.Proofs.Cursor.AnyCase
import RuneScan.Proofs.Text.Recased
import RuneScan.Proofs.Cursor.AsciiCase
import RuneScan.Proofs.Cursor.Chunks
import RuneScan.Proofs.Cursor.Exact
import RuneScan.Proofs.Script.Passing
import RuneScan.Proofs.Cursor.Shown
import RuneScan.Proofs.Cursor.Stride
import RuneScan.Proofs.Script.Stride
import RuneScan.Proofs.Script.Demand
import RuneScan.Proofs.Cursor.Inquiry
import RuneScan.Proofs.Script.Landmark
import RuneScan.Proofs.Script.SingleRune
import RuneScan.Proofs.Script.Fields
import RuneScan.Proofs.Script.Forward
import RuneScan.Proofs.Script.Trace
import RuneScan.Proofs.Script.Invariant
import RuneScan.Proofs.Script.Marks
import RuneScan.Proofs.Script.Choice
import RuneScan.Proofs.Script.Parallel
import RuneScan.Proofs.Checked.Basic
import RuneScan.Proofs.Checked.Cursor
import RuneScan.Proofs.Checked.Script
import RuneScan.Proofs.Checked.Laws
import RuneScan.Proofs.Script.LineEnd
import RuneScan.Proofs.Script.OwnWidth
import RuneScan.Proofs.Text.Ending
import RuneScan.Proofs.Text.Quoted
import RuneScan.Proofs.Cursor.Mismatch
