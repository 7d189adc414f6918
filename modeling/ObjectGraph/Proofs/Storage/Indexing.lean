import ObjectGraph.Proofs.Storage.Location
import ObjectGraph.Proofs.Word

/-!
# Access by index

The element at an index is found by walking a cursor from the start, once for each number from 0 to
the index. The walk gives up at the first advance that fails, and reports as the length how far it
has come. All the same it is access by index, for arrays and lists alike, and over the whole range
of 64 bits: the index may be the greatest number of that range, to which no 1 can be added.

1. `Counted.seekWithin`: the walk with counters of 64 bits, for some number of rounds;
2. `Counted.seekWithin_eq`: it is at its end after as many rounds as there are elements, and one,
   and no counter has overflowed;
3. `elementAt_eq_indexing`: access by index as a whole.
-/

namespace ObjectGraph

open ObjectGraph.Action

namespace Counted

/-! ## 1. Counters -/

/-- What is left of the numbers from 0 to `last`: those from `next` on, or none. -/
structure Remaining where
  next : Nat
  last : Nat
  spent : Bool := false
deriving DecidableEq, Repr, Inhabited

/-- All numbers from 0 to `last`. -/
def Remaining.upTo (last : Nat) : Remaining := { next := 0, last }

/-- Takes the least number that is left, if there is one. Behind `last` there may be no number, so
that the range is marked as spent instead. -/
def Remaining.take? (r : Remaining) : Except Trap (Option Remaining) :=
  if r.spent || r.last < r.next then .ok none
  else if r.next < r.last then do return some { r with next := ← addChecked r.next 1 }
  else .ok (some { r with spent := true })

/-- Walks over `size` elements from `position` on, once for each number that is left, for at most
`rounds` rounds; nothing if that is too few. -/
def seekWithin (size index : Nat) :
    Nat → Remaining → Nat → Except Trap (Option (Except ElementError Cursor))
  | 0, _, _ => .ok none
  | rounds + 1, r, position => do
    match ← r.take? with
    | none => return some (.ok { visited := position })
    | some r =>
      if position < size then seekWithin size index rounds r (← addChecked position 1)
      else return some (.error (.outOfRange index position))

/-! ## 2. The walk with counters -/

/-- What is left when `taken` numbers have been taken. -/
def Remaining.after (index taken : Nat) : Remaining :=
  if taken ≤ index then { next := taken, last := index }
  else { next := index, last := index, spent := true }

/-- A number is taken for each number up to the index, also for the index itself. -/
theorem Remaining.take?_after {index : Nat} (small : index < UInt64.size) (taken : Nat) :
    (after index taken).take? =
      .ok (if taken ≤ index then some (after index (taken + 1)) else none) := by
  by_cases early : taken < index
  · have fits : addChecked taken 1 = .ok (taken + 1) := addChecked_of_le early small
    have more : taken ≤ index ∧ taken + 1 ≤ index := ⟨Nat.le_of_lt early, early⟩
    simp only [after, take?, more.1, more.2, Nat.not_lt.2 more.1, early, fits, if_true,
      decide_false, Bool.or_false, Bool.false_eq_true, if_false]
    rfl
  · by_cases last : taken = index
    · simp [after, take?, last]
    · have late : ¬ taken ≤ index := by omega
      simp [after, take?, late]

theorem seekWithin_after {size index : Nat} (fits : size < UInt64.size)
    (small : index < UInt64.size) (rounds position : Nat) (enough : rounds + position = size + 1)
    (within : position ≤ size) (begun : position ≤ index + 1) :
    seekWithin size index rounds (.after index position) position =
      .ok (some (if index < size then .ok { visited := index + 1 }
        else .error (.outOfRange index size))) := by
  induction rounds generalizing position with
  | zero => omega
  | succ rounds ih =>
    rw [seekWithin, Remaining.take?_after small, Trap.ok_bind]
    by_cases more : position ≤ index
    · simp only [more, if_true]
      by_cases inside : position < size
      · rw [if_pos inside, addChecked_of_le (n := size) inside fits, Trap.ok_bind]
        exact ih (position + 1) (by omega) inside (by omega)
      · obtain rfl : position = size := by omega
        rw [if_neg inside, if_neg (by omega)]
        rfl
    · obtain rfl : position = index + 1 := by omega
      simp only [more, if_false]
      rw [if_pos (by omega)]
      rfl

/-- No counter of the walk overflows, and it is at its end after one round more than there are
elements. It comes to where `Cursor.seek` comes. -/
theorem seekWithin_eq {elements : Array Value} (fits : elements.size < UInt64.size)
    (index : UInt64) :
    seekWithin elements.size index.toNat (elements.size + 1) (.upTo index.toNat) 0 =
      .ok (some (Cursor.seek elements index)) := by
  have all : Remaining.upTo index.toNat = .after index.toNat 0 := by
    simp [Remaining.upTo, Remaining.after]
  rw [all, seekWithin_after fits index.toNat_lt _ 0 rfl (Nat.zero_le _) (Nat.zero_le _), seek_eq]

end Counted

/-! ## 3. Elements -/

section

variable {Code Host : Type} {w w' : World Code Host} {a b : Address} {index : UInt64} {v : Value}

theorem elementOf_of_lt {elements : Array Value} {i : Nat} (inside : i < elements.size) :
    elementOf elements i = .ok elements[i] := by
  rw [elementOf, Array.getElem?_eq_getElem inside]

theorem elementOf_of_le {elements : Array Value} {i : Nat} (outside : elements.size ≤ i) :
    elementOf elements i = .error (.outOfRange i elements.size) := by
  rw [elementOf, Array.getElem?_eq_none outside]

theorem elementOf_ne_storage (elements : Array Value) (i : Nat) (e : StorageError) :
    elementOf elements i ≠ .error (.storage e) := by
  unfold elementOf
  split <;> exact nofun

/-- An element that exists is overwritten, and the row keeps its length. -/
theorem outcome_setElementAt_of_lt (free : w.borrow (.entity a) = .free)
    (inside : index.toNat < (w.cells (.entity a)).size) :
    ∃ w', (setElementAt a index v).outcome w = (.ok (), w') ∧
      w'.cells (.entity a) = (w.cells (.entity a)).setIfInBounds index.toNat v ∧
      w.Overwritten ⟨.entity a, index.toNat⟩ v w' := by
  have existed : (w.read? ⟨.entity a, index.toNat⟩).isSome := World.read?_isSome.2 inside
  refine ⟨w.write ⟨.entity a, index.toNat⟩ v, ?_, ?_, World.overwritten_write ⟨existed, free⟩ v⟩
  · rw [outcome_setElementAt, if_pos free, if_pos inside]
  · exact World.cells_modifyCells_self _ (World.inUse_of_read? existed)

theorem elementAt_busy_iff :
    (elementAt a index).outcome w = (.error (.storage .busy), w') ↔
      w.borrow (.entity a) = .exclusive ∧ w' = w := by
  rw [outcome_elementAt, Prod.mk.injEq, eq_comm (a := w)]
  split
  · next busy => simp [busy]
  · next shared => simp [shared, elementOf_ne_storage]

theorem setElementAt_busy_iff :
    (setElementAt a index v).outcome w = (.error (.storage .busy), w') ↔
      w.borrow (.entity a) ≠ .free ∧ w' = w := by
  rw [outcome_setElementAt]
  split
  · next free =>
    split <;> simp [free]
  · next used => simp [used, eq_comm (a := w)]

/-- Nothing but the elements and the state of use matters, and not whether the collection is an
array or a list. -/
theorem result_of_same_elements (elements : w'.cells (.entity b) = w.cells (.entity a))
    (state : w'.borrow (.entity b) = w.borrow (.entity a)) :
    ((elementAt b index).outcome w').1 = ((elementAt a index).outcome w).1 ∧
      ((setElementAt b index v).outcome w').1 = ((setElementAt a index v).outcome w).1 := by
  rw [outcome_elementAt, outcome_elementAt, outcome_setElementAt, outcome_setElementAt, elements,
    state]
  refine ⟨rfl, ?_⟩
  split
  · split <;> rfl
  · rfl

end

/-- Element access is indexing, on arrays and lists and for every index.

If nobody writes the collection, the element at the index is read, or the index and the length are
reported. If nobody uses it, that element is overwritten and nothing else, or the index and the
length are reported and nothing is changed. It is reported as busy only while somebody writes it, or
for a write while somebody uses it. Collections with the same elements, borrowed alike, answer
alike. And the walk to the element ends after at most one round more than there are elements,
without an overflow. -/
theorem elementAt_eq_indexing {Code Host : Type} (a : Address) (index : UInt64) (v : Value)
    (w : World Code Host) :
    let elements := w.cells (.entity a)
    let state := w.borrow (.entity a)
    (state ≠ .exclusive →
      (∀ inside : index.toNat < elements.size,
        (elementAt a index).outcome w = (.ok elements[index.toNat], w)) ∧
      (elements.size ≤ index.toNat →
        (elementAt a index).outcome w = (.error (.outOfRange index.toNat elements.size), w))) ∧
    (state = .free →
      (index.toNat < elements.size →
        ∃ w', (setElementAt a index v).outcome w = (.ok (), w') ∧
          w'.cells (.entity a) = elements.setIfInBounds index.toNat v ∧
          w.Overwritten ⟨.entity a, index.toNat⟩ v w') ∧
      (elements.size ≤ index.toNat →
        (setElementAt a index v).outcome w =
          (.error (.outOfRange index.toNat elements.size), w))) ∧
    (∀ w', (elementAt a index).outcome w = (.error (.storage .busy), w') ↔
      state = .exclusive ∧ w' = w) ∧
    (∀ w', (setElementAt a index v).outcome w = (.error (.storage .busy), w') ↔
      state ≠ .free ∧ w' = w) ∧
    (∀ (b : Address) (w' : World Code Host), w'.cells (.entity b) = elements →
      w'.borrow (.entity b) = state →
      ((elementAt b index).outcome w').1 = ((elementAt a index).outcome w).1 ∧
      ((setElementAt b index v).outcome w').1 = ((setElementAt a index v).outcome w).1) ∧
    (elements.size < UInt64.size →
      Counted.seekWithin elements.size index.toNat (elements.size + 1) (.upTo index.toNat) 0 =
        .ok (some (Cursor.seek elements index))) := by
  intro elements state
  refine ⟨fun shared => ⟨fun inside => ?_, fun outside => ?_⟩,
    fun free => ⟨outcome_setElementAt_of_lt free, fun outside => ?_⟩,
    fun w' => elementAt_busy_iff, fun w' => setElementAt_busy_iff,
    fun b w' => result_of_same_elements, fun fits => Counted.seekWithin_eq fits index⟩
  · rw [outcome_elementAt, if_neg shared, elementOf_of_lt inside]
  · rw [outcome_elementAt, if_neg shared, elementOf_of_le outside]
  · rw [outcome_setElementAt, if_pos free, if_neg (Nat.not_lt.2 outside)]

/-- The last element is read and overwritten; at the greatest index that there is, neither. -/
theorem elementAt_eq_indexing_twoNumbers :
    let greatest : UInt64 := 18446744073709551615
    twoNumbers.borrow (.entity 0) = .free ∧
      (elementAt 0 1).outcome twoNumbers = (.ok (.int 2), twoNumbers) ∧
      (∃ w', (setElementAt 0 1 .null).outcome twoNumbers = (.ok (), w') ∧
        w'.cells (.entity 0) = #[.int 1, .null]) ∧
      (elementAt 0 greatest).outcome twoNumbers =
        (.error (.outOfRange 18446744073709551615 2), twoNumbers) ∧
      (setElementAt 0 greatest .null).outcome twoNumbers =
        (.error (.outOfRange 18446744073709551615 2), twoNumbers) ∧
      Counted.seekWithin 2 18446744073709551615 3 (.upTo 18446744073709551615) 0 =
        .ok (some (.error (.outOfRange 18446744073709551615 2))) := by
  intro greatest
  have free : twoNumbers.borrow (.entity 0) = .free := rfl
  have shared : twoNumbers.borrow (.entity 0) ≠ .exclusive := nofun
  have inside : (1 : UInt64).toNat < (twoNumbers.cells (.entity 0)).size := by decide
  have outside : (twoNumbers.cells (.entity 0)).size ≤ greatest.toNat := by decide
  have fits : (twoNumbers.cells (.entity 0)).size < UInt64.size := by decide
  obtain ⟨last, written, -⟩ := elementAt_eq_indexing 0 1 .null twoNumbers
  obtain ⟨w', done, cells, -⟩ := (written free).1 inside
  obtain ⟨refused, refused', -, -, -, walked⟩ :=
    elementAt_eq_indexing 0 greatest .null twoNumbers
  refine ⟨free, (last shared).1 inside, ⟨w', done, cells⟩, (refused shared).2 outside,
    (refused' free).2 outside, (walked fits).trans ?_⟩
  rw [seek_eq, if_neg (Nat.not_lt.2 outside)]
  rfl

end ObjectGraph
