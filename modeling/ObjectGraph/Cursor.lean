import ObjectGraph.Storage

/-!
# Cursors

A cursor walks over the elements of an array or list, forwards only. It begins before the first
element; each advance moves it onto the next one, until none is left. While a cursor is open its
collection is borrowed, and the elements that it shows are those of the collection.

Access to an element by its position walks a cursor from the start.
-/

namespace ObjectGraph

open ObjectGraph.Action

/-- A place in a walk over some elements. -/
structure Cursor where
  /-- The number of elements that have been moved onto. -/
  visited : Nat := 0
deriving DecidableEq, Repr, Inhabited

namespace Cursor

/-- The place before the first element. -/
def start : Cursor := {}

/-- Moves onto the next element, if there is one. -/
def advance (c : Cursor) (elements : Array Value) : Bool × Cursor :=
  if c.visited < elements.size then (true, { visited := c.visited + 1 }) else (false, c)

/-- The position of the element that the cursor is on. -/
def position? (c : Cursor) : Option Nat :=
  match c.visited with
  | 0 => none
  | n + 1 => some n

/-- The element that the cursor is on. -/
def current? (c : Cursor) (elements : Array Value) : Option Value :=
  c.position?.bind fun i => elements[i]?

/-- Replaces the element that the cursor is on, if it is on one. -/
def replace (c : Cursor) (elements : Array Value) (v : Value) : Bool × Array Value :=
  match c.position? with
  | none => (false, elements)
  | some i => if i < elements.size then (true, elements.set! i v) else (false, elements)

/-- Advances `steps` times. The walk stops at the first advance that fails, and then gives the
place where it failed. -/
def walk (elements : Array Value) : Nat → Cursor → Except Cursor Cursor
  | 0, c => .ok c
  | steps + 1, c =>
    match c.advance elements with
    | (true, c') => walk elements steps c'
    | (false, c') => .error c'

/-- Walks from the start onto the element at a position. -/
def seek (elements : Array Value) (index : UInt64) : Except ElementError Cursor :=
  match walk elements (index.toNat + 1) start with
  | .ok c => .ok c
  | .error c => .error (.outOfRange index.toNat c.visited)

end Cursor

variable {Code Host : Type}

/-- The outcome of an element access inside a borrow. -/
def flattenElement {α : Type} : Except StorageError (Except ElementError α) → Except ElementError α
  | .ok result => result
  | .error e => .error (.storage e)

/-- Reads the element at a position. -/
def elementAt (a : Address) (index : UInt64) : Action Code Host (Except ElementError Value) := do
  let found ← withShared (.entity a) fun elements => pure <|
    match Cursor.seek elements index with
    | .error e => .error e
    | .ok c =>
      match c.current? elements with
      | some v => .ok v
      | none => .error (.outOfRange index.toNat c.visited)
  return flattenElement found

/-- Replaces the element at a position. -/
def setElementAt (a : Address) (index : UInt64) (v : Value) :
    Action Code Host (Except ElementError Unit) := do
  let written ← withExclusive (.entity a) do
    let elements ← gets (·.cells (.entity a))
    match Cursor.seek elements index with
    | .error e => return .error e
    | .ok c =>
      let (done, elements) := c.replace elements v
      if done then
        modify (·.modifyCells (.entity a) fun _ => elements)
        return .ok ()
      else return .error (.outOfRange index.toNat c.visited)
  return flattenElement written

end ObjectGraph
