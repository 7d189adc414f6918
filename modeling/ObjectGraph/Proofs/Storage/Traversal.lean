import ObjectGraph.Proofs.Storage.Location
import ObjectGraph.Script.Run

/-!
# Traversal

Any calls may be made on an open cursor, in any order: it may be moved on, also past the end, and
the element that it is on may be read or replaced. What each of them gives can be told from the
calls before it. The cursor has come as far as it was moved, or to the end; an element is the value
that was put there last, or the one it was when the cursor was opened.

1. `Cursor.perform`: a call, and `Cursor.performAll`: calls one after the other;
2. `Cursor.answerAfter`: the answer to a call, told from the calls before it;
3. `Cursor.outcome_perform`, `Cursor.outcome_performAll`: a call, and all calls, are answered so;
4. `traversal_exact`: cursors for reading and cursors for writing, from opening to closing.
-/

namespace ObjectGraph

open ObjectGraph.Action

variable {Code Host : Type}

namespace Cursor

/-! ## 1. Calls -/

/-- A call on an open cursor. -/
inductive Call where
  | advance
  | visited
  | current
  | replace (v : Value)
deriving Repr, Inhabited

/-- The answer to a call. -/
inductive Answer where
  | moved (more : Bool)
  | count (n : Nat)
  | element (found : Option Value)
  | replaced (done : Bool)
deriving Repr, Inhabited

/-- Answers a call while a cursor is open on a collection. -/
def perform (a : Address) (c : Cursor) : Call → Action Code Host (Answer × Cursor)
  | .advance => do
    let elements ← gets (·.cells (.entity a))
    let (more, c) := c.advance elements
    return (.moved more, c)
  | .visited => return (.count c.visited, c)
  | .current => do
    let elements ← gets (·.cells (.entity a))
    return (.element (c.current? elements), c)
  | .replace v => do
    let elements ← gets (·.cells (.entity a))
    let (done, elements) := c.replace elements v
    modify (·.modifyCells (.entity a) fun _ => elements)
    return (.replaced done, c)

/-- Answers some calls one after the other. -/
def performAll (a : Address) : Cursor → List Call → Action Code Host (List Answer)
  | _, [] => return []
  | c, call :: calls => do
    let (answer, c) ← perform a c call
    return answer :: (← performAll a c calls)

/-- Opens a cursor for reading, makes some calls and closes it. -/
def reading (a : Address) (calls : List Call) :
    Action Code Host (Except StorageError (List Answer)) :=
  withShared (.entity a) fun _ => performAll a .start calls

/-- Opens a cursor for writing, makes some calls and closes it. -/
def writing (a : Address) (calls : List Call) :
    Action Code Host (Except StorageError (List Answer)) :=
  withExclusive (.entity a) (performAll a .start calls)

/-- The call that a step of a script makes on an open cursor, if it makes one. The value that is put
in is computed first. -/
def Call.ofStep? (evaluate : Script.Expr → Script.Act Value) (forWriting : Bool) :
    Script.Step → Option (Script.Act Call)
  | .advance => some (pure .advance)
  | .visited => some (pure .visited)
  | .current => some (pure .current)
  | .replace value => if forWriting then some (.replace <$> evaluate value) else none
  | _ => none

/-- An answer as a script shows it. -/
def Answer.shown : Answer → Script.Act Script.Outcome
  | .moved more => return .ok (.flag more)
  | .count n => return .ok (.number n)
  | .element found => Script.answerOptional found
  | .replaced done => return .ok (.flag done)

/-- What a script does with an open cursor are such calls. -/
theorem cursorStep_eq_perform (step : Script.Step → Script.Act Script.Outcome)
    {evaluate : Script.Expr → Script.Act Value} {forWriting : Bool} (a : Address) (c : Cursor)
    {s : Script.Step} {call : Script.Act Call}
    (called : Call.ofStep? evaluate forWriting s = some call) :
    Script.cursorStep step evaluate forWriting a c s = do
      let (answer, c) ← perform a c (← call)
      return (← answer.shown, c) := by
  cases s with
  | replace value =>
    cases forWriting with
    | true =>
      obtain rfl := Option.some.inj called
      simp only [Script.cursorStep, perform, bind_map_left, bind_assoc, pure_bind]
      rfl
    | false => cases called
  | advance | visited | current =>
    obtain rfl := Option.some.inj called
    rfl
  | _ => cases called

/-! ## 2. What the calls before tell -/

/-- The number of times that a cursor was asked to move on. -/
def moves (calls : List Call) : Nat :=
  calls.countP fun
    | .advance => true
    | _ => false

/-- The value that was put in last while `k` of `n` elements were visited, if there is one. The
calls so far are given with the latest first. -/
def lastPut? (n k : Nat) : List Call → Option Value
  | [] => none
  | .replace v :: past => if min (moves past) n = k then some v else lastPut? n k past
  | _ :: past => lastPut? n k past

/-- What the element at a position is after some calls. -/
def held (elements : Array Value) (past : List Call) (j : Nat) : Option Value :=
  (lastPut? elements.size (j + 1) past).or elements[j]?

/-- The answer to a call, by the calls so far. -/
def answerAfter (elements : Array Value) (past : List Call) : Call → Answer
  | .advance => .moved (decide (moves past + 1 ≤ elements.size))
  | .visited => .count (min (moves past) elements.size)
  | .current => .element <|
    match min (moves past) elements.size with
    | 0 => none
    | j + 1 => held elements past j
  | .replace _ => .replaced (decide (0 < min (moves past) elements.size))

/-- The answers to some calls, by those before them. -/
def answersAfter (elements : Array Value) : List Call → List Call → List Answer
  | _, [] => []
  | past, call :: calls =>
    answerAfter elements past call :: answersAfter elements (call :: past) calls

@[simp] theorem moves_reverse (calls : List Call) : moves calls.reverse = moves calls :=
  List.countP_reverse

@[simp] theorem moves_cons_advance (past : List Call) :
    moves (.advance :: past) = moves past + 1 := by
  simp [moves]

theorem length_answersAfter (elements : Array Value) (past calls : List Call) :
    (answersAfter elements past calls).length = calls.length := by
  induction calls generalizing past with
  | nil => rfl
  | cons call calls ih => rw [answersAfter, List.length_cons, ih, List.length_cons]

theorem getElem?_answersAfter (elements : Array Value) (past earlier : List Call) (call : Call)
    (later : List Call) :
    (answersAfter elements past (earlier ++ call :: later))[earlier.length]? =
      some (answerAfter elements (earlier.reverse ++ past) call) := by
  induction earlier generalizing past with
  | nil => rfl
  | cons first earlier ih => simp [answersAfter, ih]

/-! ## 3. Calls are answered so -/

/-- Where a cursor and its collection are after some calls. -/
structure Reached (elements : Array Value) (past : List Call) (c : Cursor) (now : Array Value) :
    Prop where
  visited : c.visited = min (moves past) elements.size
  size : now.size = elements.size
  contents : ∀ j, now[j]? = held elements past j

variable {elements now : Array Value} {past : List Call} {c : Cursor} {a : Address}

theorem reached_start (elements : Array Value) : Reached elements [] .start elements where
  visited := (Nat.zero_min _).symm
  size := rfl
  contents := fun _ => rfl

theorem Reached.advance (reached : Reached elements past c now) :
    (c.advance now).1 = decide (moves past + 1 ≤ elements.size) ∧
      Reached elements (.advance :: past) (c.advance now).2 now := by
  have visited := reached.visited
  have size := reached.size
  unfold Cursor.advance
  by_cases more : c.visited < now.size
  · have early : moves past + 1 ≤ elements.size := by omega
    rw [if_pos more]
    refine ⟨(decide_eq_true early).symm, ?_, size, reached.contents⟩
    rw [moves_cons_advance]
    simp only
    omega
  · have late : ¬ moves past + 1 ≤ elements.size := by omega
    rw [if_neg more]
    refine ⟨(decide_eq_false late).symm, ?_, size, reached.contents⟩
    rw [moves_cons_advance]
    simp only
    omega

theorem Reached.current? (reached : Reached elements past c now) :
    .element (c.current? now) = answerAfter elements past .current := by
  rw [answerAfter, ← reached.visited, Cursor.current?, Cursor.position?]
  rcases c.visited with _ | j
  · rfl
  · exact congrArg Answer.element (reached.contents j)

theorem Reached.replace (reached : Reached elements past c now) (v : Value) :
    (c.replace now v).1 = decide (0 < min (moves past) elements.size) ∧
      Reached elements (.replace v :: past) c (c.replace now v).2 := by
  have visited := reached.visited
  have size := reached.size
  unfold Cursor.replace Cursor.position?
  rcases come : c.visited with _ | i
  · have none_visited : min (moves past) elements.size = 0 := by omega
    refine ⟨by simp [none_visited], visited, size, fun j => ?_⟩
    have elsewhere : min (moves past) elements.size ≠ j + 1 := by omega
    rw [held, lastPut?, if_neg elsewhere]
    exact reached.contents j
  · have some_visited : min (moves past) elements.size = i + 1 := by omega
    have inside : i < now.size := by omega
    simp only [inside, if_true]
    refine ⟨by simp [some_visited], visited, by simpa using size, fun j => ?_⟩
    rw [held, lastPut?, some_visited, Array.set!_eq_setIfInBounds]
    by_cases here : i = j
    · subst here
      simp [inside]
    · have elsewhere : i + 1 ≠ j + 1 := by omega
      rw [if_neg elsewhere, Array.getElem?_setIfInBounds_ne here]
      exact reached.contents j

/-- A call is answered by the calls so far, and changes nothing but the elements. -/
theorem outcome_perform {w : World Code Host}
    (reached : Reached elements past c (w.cells (.entity a))) (call : Call) :
    ∃ c' now, (perform a c call).outcome w =
        ((answerAfter elements past call, c'), w.modifyCells (.entity a) fun _ => now) ∧
      Reached elements (call :: past) c' now := by
  have same := World.modifyCells_cells w (.entity a)
  cases call with
  | advance =>
    obtain ⟨more, further⟩ := reached.advance
    refine ⟨_, _, ?_, further⟩
    rw [same, answerAfter, ← more]
    rfl
  | visited =>
    refine ⟨c, _, ?_, reached.visited, reached.size, reached.contents⟩
    rw [same, answerAfter, ← reached.visited]
    rfl
  | current =>
    refine ⟨c, _, ?_, reached.visited, reached.size, reached.contents⟩
    rw [same, ← reached.current?]
    rfl
  | replace v =>
    obtain ⟨done, further⟩ := reached.replace v
    refine ⟨c, _, ?_, further⟩
    rw [answerAfter, ← done]
    rfl

theorem outcome_performAll {w : World Code Host}
    (reached : Reached elements past c (w.cells (.entity a))) (calls : List Call) :
    ∃ c' now, (performAll a c calls).outcome w =
        (answersAfter elements past calls, w.modifyCells (.entity a) fun _ => now) ∧
      Reached elements (calls.reverse ++ past) c' now := by
  -- What is kept from call to call is where the cursor and the elements are by the calls so far.
  induction calls generalizing past c w with
  | nil =>
    refine ⟨c, w.cells (.entity a), ?_, reached⟩
    rw [World.modifyCells_cells]
    rfl
  | cons call calls ih =>
    obtain ⟨c₁, now₁, performed, reached₁⟩ := outcome_perform reached call
    have seen : (w.modifyCells (.entity a) fun _ => now₁).cells (.entity a) = now₁ :=
      World.cells_modifyCells_const (reached₁.size.trans reached.size.symm)
    obtain ⟨c₂, now₂, rest, reached₂⟩ := ih (seen.symm ▸ reached₁)
    refine ⟨c₂, now₂, ?_, by simpa using reached₂⟩
    rw [performAll, outcome_bind, performed]
    simp only [outcome_bind, rest, outcome_pure, answersAfter,
      World.modifyCells_modifyCells_const]

/-- Without a replacement, the elements stay what they were. -/
theorem lastPut?_of_reading (n k : Nat) {past : List Call} (reads : ∀ v, .replace v ∉ past) :
    lastPut? n k past = none := by
  induction past with
  | nil => rfl
  | cons call past ih =>
    have rest := ih fun v member => reads v (List.mem_cons_of_mem _ member)
    cases call with
    | replace v => exact absurd List.mem_cons_self (reads v)
    | _ => exact rest

theorem Reached.eq_of_reading (reached : Reached elements past c now)
    (reads : ∀ v, .replace v ∉ past) : now = elements := by
  apply Array.ext_getElem?
  intro j
  rw [reached.contents j, held, lastPut?_of_reading _ _ reads, Option.none_or]

/-! ## 4. From opening to closing -/

/-- The answers to some calls on a cursor over `elements`, which leave the elements `after`. -/
structure Exact (elements : Array Value) (calls : List Call) (answers : List Answer)
    (after : Array Value) : Prop where
  length : answers.length = calls.length
  /-- The j-th advance moves the cursor if there is a j-th element. -/
  advance : ∀ earlier later, calls = earlier ++ .advance :: later →
    answers[earlier.length]? = some (.moved (decide (moves earlier + 1 ≤ elements.size)))
  visited : ∀ earlier later, calls = earlier ++ .visited :: later →
    answers[earlier.length]? = some (.count (min (moves earlier) elements.size))
  /-- There is no current element before the first one is visited. -/
  before : ∀ earlier later, calls = earlier ++ .current :: later →
    min (moves earlier) elements.size = 0 → answers[earlier.length]? = some (.element none)
  /-- The current element is the one visited last. -/
  current : ∀ earlier later, calls = earlier ++ .current :: later →
    ∀ j, min (moves earlier) elements.size = j + 1 →
      ∃ v, held elements earlier.reverse j = some v ∧
        answers[earlier.length]? = some (.element (some v))
  replace : ∀ earlier v later, calls = earlier ++ .replace v :: later →
    answers[earlier.length]? = some (.replaced (decide (0 < min (moves earlier) elements.size)))
  size : after.size = elements.size
  contents : ∀ j, after[j]? = held elements calls.reverse j

theorem held_isSome {past : List Call} {j : Nat} (inside : j < elements.size) :
    ∃ v, held elements past j = some v := by
  rw [held, Array.getElem?_eq_getElem inside]
  cases lastPut? elements.size (j + 1) past with
  | none => exact ⟨_, rfl⟩
  | some v => exact ⟨v, rfl⟩

theorem exact_of_reached {calls : List Call} {after : Array Value}
    (reached : Reached elements calls.reverse c after) :
    Exact elements calls (answersAfter elements [] calls) after := by
  have answered (earlier : List Call) (call : Call) (later : List Call)
      (split : calls = earlier ++ call :: later) :
      (answersAfter elements [] calls)[earlier.length]? =
        some (answerAfter elements earlier.reverse call) := by
    rw [split, getElem?_answersAfter, List.append_nil]
  refine
    { length := length_answersAfter elements [] calls
      advance := ?_, visited := ?_, before := ?_, current := ?_, replace := ?_
      size := reached.size
      contents := reached.contents }
  · intro earlier later split
    rw [answered earlier _ later split, answerAfter, moves_reverse]
  · intro earlier later split
    rw [answered earlier _ later split, answerAfter, moves_reverse]
  · intro earlier later split before
    rw [answered earlier _ later split, answerAfter, moves_reverse, before]
  · intro earlier later split j visited
    have inside : j < elements.size := by omega
    obtain ⟨v, here⟩ : ∃ v, held elements earlier.reverse j = some v := held_isSome inside
    refine ⟨v, here, ?_⟩
    rw [answered earlier _ later split, answerAfter, moves_reverse, visited]
    simp only [here]
  · intro earlier v later split
    rw [answered earlier _ later split, answerAfter, moves_reverse]

end Cursor

open Cursor

/-- Any calls on an open cursor are answered exactly, by the calls before them.

A cursor for reading opens unless somebody writes the collection, and leaves the world as it was. A
cursor for writing opens if nobody uses the collection, and when it is closed each element is the
value that was put in last while the cursor was on it, or the one it was before. -/
theorem traversal_exact (a : Address) (calls : List Call) (w : World Code Host) :
    let elements := w.cells (.entity a)
    (w.borrow (.entity a) ≠ .exclusive → (∀ v, .replace v ∉ calls) →
      ∃ answers, (reading a calls).outcome w = (.ok answers, w) ∧
        Exact elements calls answers elements) ∧
    (w.borrow (.entity a) = .free →
      ∃ answers w', (writing a calls).outcome w = (.ok answers, w') ∧
        (w' = w.modifyCells (.entity a) fun _ => w'.cells (.entity a)) ∧
        Exact elements calls answers (w'.cells (.entity a))) := by
  intro elements
  have opened (b : Borrow) :
      Reached elements [] .start ((w.setBorrow (.entity a) b).cells (.entity a)) := by
    rw [World.cells_setBorrow]
    exact reached_start elements
  refine ⟨fun shared reads => ?_, fun free => ?_⟩
  · rcases granted : (w.borrow (.entity a)).share? with _ | borrowed
    · exact absurd (share?_eq_none_iff.1 granted) shared
    · obtain ⟨c, now, performed, reached⟩ := outcome_performAll (opened borrowed) calls
      rw [List.append_nil] at reached
      obtain rfl : now = elements := reached.eq_of_reading (by simpa using reads)
      obtain ⟨log, ran⟩ := run_of_outcome performed
      refine ⟨answersAfter elements [] calls, ?_, exact_of_reached reached⟩
      have unchanged : ((w.setBorrow (.entity a) borrowed).modifyCells (.entity a)
          fun _ => elements) = w.setBorrow (.entity a) borrowed := by
        simpa only [World.cells_setBorrow] using
          World.modifyCells_cells (w.setBorrow (.entity a) borrowed) (.entity a)
      rw [reading, outcome, run_withShared, granted]
      simp only [ran, unchanged]
      rw [World.setBorrow_release (Borrow.release_of_share? granted)]
  · obtain ⟨c, now, performed, reached⟩ := outcome_performAll (opened .exclusive) calls
    rw [List.append_nil] at reached
    have seen : (w.modifyCells (.entity a) fun _ => now).cells (.entity a) = now :=
      World.cells_modifyCells_const reached.size
    refine ⟨answersAfter elements [] calls, w.modifyCells (.entity a) fun _ => now, ?_, ?_, ?_⟩
    · have back : Borrow.exclusive.release = w.borrow (.entity a) := free.symm
      rw [writing, outcome_withExclusive, if_pos free, performed]
      simp only [World.borrow_modifyCells, World.setBorrow_modifyCells_release back]
    · rw [seen]
    · rw [seen]
      exact exact_of_reached reached

/-- An element may be replaced any number of times, the last one also from past the end. -/
theorem traversal_exact_past_end :
    let reads : List Call := [.current, .advance, .current]
    let calls : List Call :=
      [.replace (.int 5), .advance, .replace (.int 6), .replace (.int 7), .advance, .advance,
        .visited, .replace (.int 8), .current]
    twoNumbers.borrow (.entity 0) = .free ∧ (∀ v, .replace v ∉ reads) ∧
      (∃ answers, (reading 0 reads).outcome twoNumbers = (.ok answers, twoNumbers) ∧
        answers[0]? = some (.element none) ∧ answers[2]? = some (.element (some (.int 1)))) ∧
      ∃ answers w', (writing 0 calls).outcome twoNumbers = (.ok answers, w') ∧
        answers[0]? = some (.replaced false) ∧
        answers[5]? = some (.moved false) ∧
        answers[6]? = some (.count 2) ∧
        answers[8]? = some (.element (some (.int 8))) ∧
        (w'.cells (.entity 0))[0]? = some (.int 7) ∧
        (w'.cells (.entity 0))[1]? = some (.int 8) := by
  intro reads calls
  have free : twoNumbers.borrow (.entity 0) = .free := rfl
  have shared : twoNumbers.borrow (.entity 0) ≠ .exclusive := nofun
  have onlyReads : ∀ v, .replace v ∉ reads := by simp [reads]
  refine ⟨free, onlyReads, ?_, ?_⟩
  · obtain ⟨answers, done, answered⟩ := (traversal_exact 0 reads twoNumbers).1 shared onlyReads
    obtain ⟨v, here, current⟩ := answered.current (reads.take 2) [] rfl 0 rfl
    obtain rfl : v = .int 1 := (Option.some.inj here).symm
    exact ⟨answers, done, answered.before [] _ rfl rfl, current⟩
  · obtain ⟨answers, w', done, -, answered⟩ := (traversal_exact 0 calls twoNumbers).2 free
    obtain ⟨v, here, current⟩ := answered.current (calls.take 8) [] rfl 1 rfl
    obtain rfl : v = .int 8 := (Option.some.inj here).symm
    exact ⟨answers, w', done, answered.replace [] _ _ rfl, answered.advance (calls.take 5) _ rfl,
      answered.visited (calls.take 6) _ rfl, current, answered.contents 0, answered.contents 1⟩

end ObjectGraph
