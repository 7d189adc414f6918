import ObjectGraph.Action

/-!
# Slots and elements

Direct access to one storage: the slots of objects and of static storages, the elements of
collections as a whole. A read borrows the storage for reading, a write for writing, each only for
its own duration.

Arrays and lists are measured, copied and resized by their holder, who has to know that their
storage is not in use; doing so all the same is a misuse.
-/

namespace ObjectGraph

open ObjectGraph.Action

variable {Code Host : Type}

/-- The value in a slot of a row. -/
def slotOf (cells : Array Value) (slot : Nat) : Except StorageError Value :=
  match cells[slot]? with
  | some v => .ok v
  | none => .error (.slotOutOfBounds slot cells.size)

/-- Reads a slot. -/
def readSlot (id : StorageId) (slot : Nat) : Action Code Host (Except StorageError Value) := do
  match ← withShared id fun cells => pure (slotOf cells slot) with
  | .ok found => return found
  | .error e => return .error e

/-- Writes a slot. Whether the value suits the field is not looked at. -/
def writeSlot (id : StorageId) (slot : Nat) (v : Value) :
    Action Code Host (Except StorageError Unit) := do
  let written ← withExclusive id do
    let size ← gets fun w => (w.cells id).size
    if slot < size then
      modify (·.modifyCells id fun cells => cells.setIfInBounds slot v)
      return .ok ()
    else return .error (.slotOutOfBounds slot size)
  match written with
  | .ok result => return result
  | .error e => return .error e

/-! ## Collections -/

/-- Creates an array with these elements. -/
def newArray (elements : Array Value) : Action Code Host Value :=
  transform fun w =>
    let (a, w) := w.allocate .array elements
    (.array a, w)

/-- Creates a list with these elements. -/
def newList (elements : Array Value) : Action Code Host Value :=
  transform fun w =>
    let (a, w) := w.allocate .list elements
    (.list a, w)

/-- The elements of an array or list. -/
def elements (a : Address) : Action Code Host (Except Misuse (Array Value)) := do
  match ← withShared (.entity a) fun cells => pure cells with
  | .ok cells => return .ok cells
  | .error _ => return .error .borrowed

/-- Replaces the contents of a list by a function of them, and gives a result. -/
def resize {α : Type} (a : Address) (f : Array Value → Array Value) (result : Array Value → α) :
    Action Code Host (Except Misuse α) := do
  let changed ← withExclusive (.entity a) do
    let r ← gets fun w => result (w.cells (.entity a))
    modify (·.modifyCells (.entity a) f)
    return r
  match changed with
  | .ok r => return .ok r
  | .error _ => return .error .borrowed

/-- Appends an element to a list. -/
def push (a : Address) (v : Value) : Action Code Host (Except Misuse Unit) :=
  resize a (·.push v) fun _ => ()

/-- Removes the last element of a list, if there is one. -/
def pop (a : Address) : Action Code Host (Except Misuse (Option Value)) :=
  resize a (·.pop) (·.back?)

/-- Shortens a list to at most `len` elements. -/
def truncate (a : Address) (len : Nat) : Action Code Host (Except Misuse Unit) :=
  resize a (·.take len) fun _ => ()

end ObjectGraph
