import RuneScan.Proofs.Cursor.Stride
import RuneScan.Script.Move

/-! Loops over runes ask about one after another, each of them once, up to the deciding answer. -/

namespace RuneScan

namespace Query

/-- The query whose answer is yes where the other one gives the wanted answer. -/
def gives (query : Query) (wanted : Bool) : Query := fun asked rune => query asked rune == wanted

/-- To want a yes changes nothing. -/
@[simp] theorem gives_true (query : Query) : query.gives true = query := by
  funext asked rune
  rw [gives, beq_true]

/-- To want a no exchanges the answers. -/
@[simp] theorem gives_false (query : Query) : query.gives false = query.negated := by
  funext asked rune
  rw [gives, negated, beq_false]

/-- The query as it goes on after it was asked about some runes, latest first. -/
def behind (query : Query) (asked : List Char) : Query :=
  -- What is asked later stands in front, for the latest rune comes first.
  fun later rune => query (later ++ asked) rune

/-- The answer about the rune at a place, after those before it were asked about in order. -/
def answer? (query : Query) (runes : List Char) (place : Nat) : Option Bool :=
  -- A query is given the runes before with the latest one first.
  runes[place]?.map (query (runes.take place).reverse)

/-- So many runes in a row have the answer yes, and no further one. -/
structure Accepts (query : Query) (runes : List Char) (count : Nat) : Prop where
  /-- Each of these runes has a yes. -/
  yes : ∀ place < count, query.answer? runes place = some true
  /-- The rune behind them has a no, unless they are the last ones. -/
  no : query.answer? runes count ≠ some true

/-- Before anything was asked about, the query goes on as it is. -/
@[simp] theorem behind_nil (query : Query) : query.behind [] = query := by
  funext later rune
  rw [behind, List.append_nil]

/-- The answers about later runes are those of the query as it goes on. -/
theorem answer?_behind_succ (query : Query) (asked : List Char) (rune : Char) (runes : List Char)
    (place : Nat) :
    (query.behind asked).answer? (rune :: runes) (place + 1) =
      (query.behind (rune :: asked)).answer? runes place := by
  -- What was asked before is remembered behind the first rune.
  have asks : (query.behind asked) ((rune :: runes).take (place + 1)).reverse =
      (query.behind (rune :: asked)) (runes.take place).reverse := by
    funext next
    rw [List.take_succ_cons, List.reverse_cons, behind, behind, List.append_assoc,
      List.singleton_append]
  rw [answer?, answer?, List.getElem?_cons_succ, asks]

/-- A rune with the answer yes puts off the first no by one. -/
theorem Accepts.succ {query : Query} {asked : List Char} {rune : Char} {runes : List Char}
    {count : Nat} (yes : query asked rune = true)
    (later : (query.behind (rune :: asked)).Accepts runes count) :
    (query.behind asked).Accepts (rune :: runes) (count + 1) := by
  -- The answer about the first rune is given, and the others are put off by one place.
  refine ⟨?_, ?_⟩
  · intro place before
    cases place with
    | zero => exact congrArg some yes
    | succ place =>
      rw [answer?_behind_succ]
      exact later.yes place (Nat.lt_of_succ_lt_succ before)
  · rw [answer?_behind_succ]
    exact later.no

/-- There are as many runes as have a yes. -/
theorem Accepts.within {query : Query} {runes : List Char} {count : Nat}
    (accepts : query.Accepts runes count) : count ≤ runes.length := by
  -- There is no answer where no rune is left.
  apply Nat.le_of_not_lt
  intro beyond
  have answered := accepts.yes runes.length beyond
  rw [answer?, List.getElem?_length] at answered
  contradiction

end Query

/-- A machine gives an answer about a rune, and goes over to another state as it does. -/
abbrev Machine (State : Type) := State → Char → Bool × State

namespace Machine

variable {State : Type}

/-- The state of a machine after it was asked about some runes, latest first. -/
def after (machine : Machine State) (start : State) : List Char → State
  | [] => start
  -- The latest rune is asked about in the state that the others lead to.
  | rune :: asked => (machine (machine.after start asked) rune).2

/-- The query that remembers runes where a machine has a state. -/
def query (machine : Machine State) (start : State) : Query :=
  fun asked rune => (machine (machine.after start asked) rune).1

end Machine

namespace Cursor

/-- Where no rune is accepted, the first of those that are left has no yes. -/
theorem accepts_zero_of_stuck {cursor : Cursor} {query : Query} {asked : List Char}
    (stuck : (cursor.acceptBy? query asked).result = none) :
    (query.behind asked).Accepts (Utf8.runes cursor.rest) 0 := by
  -- If the first rune had a yes, it would have been accepted.
  refine ⟨fun _ before => absurd before (Nat.not_lt_zero _), ?_⟩
  intro answered
  cases stepped : cursor.next? with
  | none =>
    rw [next?_eq_none_iff.mp stepped, Utf8.runes_nil] at answered
    contradiction
  | some next =>
    rw [runes_rest_of_next? stepped] at answered
    have yes : query asked cursor.rune = true := Option.some.inj answered
    have ended := acceptBy?_eq_none_iff.mp stuck yes
    rw [stepped] at ended
    contradiction

/--
Passing runes while the answer is yes passes those before the first no.

It asks about these and, if there is one, about the rune behind them.
-/
theorem exists_passWhile_eq_take (cursor : Cursor) (query : Query) (asked : List Char) :
    ∃ count reached, (query.behind asked).Accepts (Utf8.runes cursor.rest) count ∧
      cursor.Passes ((Utf8.runes cursor.rest).take count) reached ∧
      cursor.passWhile query asked = ⟨reached, (Utf8.runes cursor.rest).take (count + 1)⟩ := by
  -- The induction follows the runes that are passed.
  induction cursor, asked using passWhile.induct query with
  | case1 cursor asked stuck =>
    refine ⟨0, cursor, accepts_zero_of_stuck stuck, Passes.still cursor, ?_⟩
    rw [passWhile_stop stuck, asked_acceptBy?]
  | case2 cursor asked runes next accepted ih =>
    obtain ⟨yes, stepped⟩ := acceptBy?_eq_some_iff.mp accepted
    -- The first rune that is left is the one that was accepted.
    have left := runes_rest_of_next? stepped
    have heard := asked_acceptBy?_of_next? stepped query asked
    rw [show runes = [cursor.rune] from heard, List.singleton_append] at ih
    obtain ⟨count, reached, accepts, passes, walked⟩ := ih
    rw [left]
    refine ⟨count + 1, reached, accepts.succ yes, Passes.step stepped passes, ?_⟩
    rw [passWhile_step accepted heard, List.singleton_append, walked, List.take_succ_cons]
    rfl

/-- Passing runes with a property is walking up to the first one without it. -/
theorem passWhile_ofPred (holds : Char → Bool) (cursor : Cursor) (asked : List Char)
    (moved : Bool) :
    (cursor.passWhile (.ofPred holds) asked).result =
      (cursor.walkUntil (fun place => !holds place.rune) moved).reached := by
  -- Passing runes with a property is passing runes until one lacks it.
  have negated : Query.ofPred holds = (Query.ofPred fun rune => !holds rune).negated := by
    funext asked rune
    rw [Query.negated, Query.ofPred, Query.ofPred, Bool.not_not]
  rw [negated, ← passUntil_eq_passWhile_negated, passUntil_ofPred (fun _ _ => rfl) cursor asked]

/-- A passage makes progress if it goes over any runes at all. -/
theorem Passes.progress?_eq {start last : Cursor} {runes : List Char}
    (passes : start.Passes runes last) :
    start.progress? last = if runes = [] then none else some last := by
  -- Each rune takes up bytes, so that a passage over any leads further.
  cases passes with
  | still => rw [progress?, if_neg (Nat.lt_irrefl _), if_pos rfl]
  | step stepped later =>
    obtain ⟨filled, rfl⟩ := next?_eq_some_iff.mp stepped
    have onward := later.offset_le
    have taken := width_reading_pos filled
    rw [offset_skip] at onward
    rw [progress?, if_pos (by omega), if_neg (by simp)]

/--
Steps over runes as long as a machine gives the wanted answer, and gives its state in the end.

The machine is asked before each step, and goes on from the state that it was left in.
-/
def passAsking {State : Type} (cursor : Cursor) (machine : Machine State) (wanted : Bool)
    (state : State) : Cursor × State :=
  match _ : cursor.next? with
  | none => (cursor, state)
  | some next =>
    let reply := machine state cursor.rune
    -- The state goes on from a rune with the other answer too.
    if reply.1 == wanted then next.passAsking machine wanted reply.2 else (cursor, reply.2)
termination_by cursor.remaining
decreasing_by exact next?_remaining_lt ‹_›

section Machine

variable {State : Type} {machine : Machine State} {wanted : Bool} {start : State} {cursor : Cursor}

/-- Nothing is asked where nothing is left. -/
theorem passAsking_stop (ended : cursor.next? = none) (state : State) :
    cursor.passAsking machine wanted state = (cursor, state) := by
  -- The other case is that there is a rune to ask about.
  rw [passAsking]
  split
  · rfl
  · rename_i next stepped
    rw [ended] at stepped
    contradiction

/-- Elsewhere the machine is asked once, and its answer decides whether the rune is passed. -/
theorem passAsking_step {next : Cursor} (stepped : cursor.next? = some next) (asked : List Char) :
    cursor.passAsking machine wanted (machine.after start asked) =
      if (machine.query start).gives wanted asked cursor.rune then
        next.passAsking machine wanted (machine.after start (cursor.rune :: asked))
      else (cursor, machine.after start (cursor.rune :: asked)) := by
  -- What the machine answers is what its query does, remembering the runes before.
  rw [passAsking]
  split
  · rename_i ended
    rw [stepped] at ended
    contradiction
  · rename_i other again
    rw [stepped, Option.some.injEq] at again
    rw [again]
    rfl

/-- A machine is asked about the same runes as its query, and passes the same ones. -/
theorem passAsking_eq (cursor : Cursor) (machine : Machine State) (wanted : Bool) (start : State)
    (asked : List Char) :
    cursor.passAsking machine wanted (machine.after start asked) =
      let walk := cursor.passWhile ((machine.query start).gives wanted) asked
      (walk.result, machine.after start (walk.asked.reverse ++ asked)) := by
  -- The induction follows the runes that are passed, each of which the machine was asked about.
  induction cursor, asked using passWhile.induct ((machine.query start).gives wanted) with
  | case1 cursor asked stuck =>
    rw [passWhile_stop stuck, asked_acceptBy?]
    -- A rune that stops the walk was asked about, unless nothing is left.
    cases stepped : cursor.next? with
    | none =>
      rw [passAsking_stop stepped, next?_eq_none_iff.mp stepped, Utf8.runes_nil]
      rfl
    | some next =>
      have refused : ¬ (machine.query start).gives wanted asked cursor.rune = true := by
        intro yes
        rw [acceptBy?_eq_none_iff.mp stuck yes] at stepped
        contradiction
      rw [passAsking_step stepped, if_neg refused, runes_rest_of_next? stepped]
      rfl
  | case2 cursor asked runes next accepted ih =>
    obtain ⟨yes, stepped⟩ := acceptBy?_eq_some_iff.mp accepted
    have heard := asked_acceptBy?_of_next? stepped ((machine.query start).gives wanted) asked
    rw [show runes = [cursor.rune] from heard, List.singleton_append] at ih
    rw [passAsking_step stepped, if_pos yes, ih, passWhile_step accepted heard,
      List.singleton_append]
    simp only [List.singleton_append, List.reverse_cons, List.append_assoc]

end Machine

end Cursor

namespace Script

/-- A loop that has passed runes answers yes and arrives behind them, or else it answers no. -/
theorem Arrival.ofInquiry_progress? {start last : Cursor} {runes : List Char}
    (passes : start.Passes runes last) (asked : List Char) :
    Arrival.ofInquiry start ⟨start.progress? last, asked⟩ =
      ⟨.ofInquiry ⟨.flag (decide (runes ≠ [])), asked⟩, last⟩ := by
  -- A passage over no runes has not moved.
  rw [Arrival.ofInquiry, passes.progress?_eq]
  cases passes <;> simp

/-- A loop that asks about runes leads to where it stands in the end, also if it has not moved. -/
theorem Move.run_acceptManyBy (cursor : Cursor) (query : Query) :
    ∃ count reached, query.Accepts (Utf8.runes cursor.rest) count ∧
      cursor.Passes ((Utf8.runes cursor.rest).take count) reached ∧
      cursor.passWhile query [] = ⟨reached, (Utf8.runes cursor.rest).take (count + 1)⟩ ∧
      (Move.acceptManyBy query).run cursor =
        ⟨.ofInquiry ⟨.flag (decide (1 ≤ count)), (Utf8.runes cursor.rest).take (count + 1)⟩,
          reached⟩ := by
  obtain ⟨count, reached, accepts, passes, walked⟩ := cursor.exists_passWhile_eq_take query []
  rw [Query.behind_nil] at accepts
  have within := accepts.within
  -- As many runes are left as were accepted.
  have any : (Utf8.runes cursor.rest).take count ≠ [] ↔ 1 ≤ count := by
    rw [ne_eq, ← List.length_eq_zero_iff, List.length_take, Nat.min_eq_left within]
    omega
  refine ⟨count, reached, accepts, passes, walked, ?_⟩
  rw [Move.run, Cursor.acceptManyBy?, walked, Arrival.ofInquiry_progress? passes]
  simp only [any]

/-- Skipping up to an answer is accepting as long as the exchanged answer is yes. -/
theorem Move.run_skipUntilBy (cursor : Cursor) (query : Query) :
    (Move.skipUntilBy query).run cursor = (Move.acceptManyBy query.negated).run cursor := by
  -- The loops are the same, and so are the arrivals behind them.
  rw [Move.run, Move.run, Cursor.skipUntilBy?_eq_acceptManyBy?]

/-- A machine is led through the runes that its query is asked about, to where the moves lead. -/
theorem Move.passAsking_eq {State : Type} (cursor : Cursor) (machine : Machine State)
    (start : State) :
    let accepted := (Move.acceptManyBy (machine.query start)).run cursor
    let skipped := (Move.skipUntilBy (machine.query start)).run cursor
    cursor.passAsking machine true start =
        (accepted.cursor, machine.after start (accepted.response.asked.getD []).reverse) ∧
      cursor.passAsking machine false start =
        (skipped.cursor, machine.after start (skipped.response.asked.getD []).reverse) := by
  intro accepted skipped
  -- The machine and its query pass the same runes, and the moves report what was asked about.
  have yes := cursor.passAsking_eq machine true start []
  have no := cursor.passAsking_eq machine false start []
  obtain ⟨_, _, _, _, walked, runs⟩ := Move.run_acceptManyBy cursor (machine.query start)
  obtain ⟨_, _, _, _, skips, alsoRuns⟩ :=
    Move.run_acceptManyBy cursor (machine.query start).negated
  rw [Query.gives_true, walked] at yes
  rw [Query.gives_false, skips] at no
  rw [← Move.run_skipUntilBy] at alsoRuns
  simp only [List.append_nil] at yes no
  rw [show accepted = _ from runs, show skipped = _ from alsoRuns]
  exact ⟨yes, no⟩

/--
A loop over runes asks about one after another, each of them once, up to the deciding answer.

To accept runes passes those before the first no, and to skip them those before the first yes. The
runes of a machine with a state are those of the query that remembers what it was asked about.
-/
theorem run_acceptManyBy_asks (cursor : Cursor) :
    (∀ query : Query, ∃ count reached,
      query.Accepts (Utf8.runes cursor.rest) count ∧
      cursor.Passes ((Utf8.runes cursor.rest).take count) reached ∧
      (Move.acceptManyBy query).run cursor =
        ⟨.ofInquiry ⟨.flag (decide (1 ≤ count)), (Utf8.runes cursor.rest).take (count + 1)⟩,
          reached⟩) ∧
    (∀ query : Query,
      (Move.skipUntilBy query).run cursor = (Move.acceptManyBy query.negated).run cursor) ∧
    ∀ (State : Type) (machine : Machine State) (start : State),
      let accepted := (Move.acceptManyBy (machine.query start)).run cursor
      let skipped := (Move.skipUntilBy (machine.query start)).run cursor
      cursor.passAsking machine true start =
          (accepted.cursor, machine.after start (accepted.response.asked.getD []).reverse) ∧
        cursor.passAsking machine false start =
          (skipped.cursor, machine.after start (skipped.response.asked.getD []).reverse) := by
  refine ⟨?_, Move.run_skipUntilBy cursor, fun _ => Move.passAsking_eq cursor⟩
  -- The runes that are asked about are those passed, and the deciding one behind them.
  intro query
  obtain ⟨count, reached, accepts, passes, _, runs⟩ := Move.run_acceptManyBy cursor query
  exact ⟨count, reached, accepts, passes, runs⟩

end Script

end RuneScan
