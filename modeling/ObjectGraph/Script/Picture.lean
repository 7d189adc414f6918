import ObjectGraph.View
import ObjectGraph.World

/-!
# Pictures of values

A picture is a finite tree that shows a value with all that can be reached from it. Objects,
arrays and lists are numbered in the order in which they are first shown, over all pictures of a
script. Within one picture each of them is shown in full only once, and by its number after that;
so a cyclic graph has a picture too.

The contents of a storage that is being written cannot be shown.
-/

namespace ObjectGraph

inductive Picture where
  | null
  | bool (b : Bool)
  | int (n : Int64)
  | float (x : Binary64)
  | char (c : Char)
  | str (s : String)
  | struct (type : String) (fields : List (String × Picture))
  /-- An object with its number; its fields are not known while it is being written. -/
  | object (type : String) (number : Nat) (fields : Option (List (String × Picture)))
  | array (number : Nat) (items : Option (List Picture))
  | list (number : Nat) (items : Option (List Picture))
  /-- Something that the picture shows elsewhere. -/
  | ref (number : Nat)
deriving Repr, Inhabited

/-- The state of drawing. -/
structure Sketch where
  /-- The addresses that have a number, in the order of the numbers. -/
  numbers : Array Address
  /-- The addresses that the picture shows already. -/
  shown : List Address
deriving Repr, Inhabited

abbrev Drawing := StateM Sketch

namespace Sketch

/-- The number of an address; the next free one if it has none yet. -/
def numberOf (a : Address) : Drawing Nat := do
  let s ← get
  match s.numbers.idxOf? a with
  | some i => return i + 1
  | none =>
    set { s with numbers := s.numbers.push a }
    return s.numbers.size + 1

/-- Notes that an address is shown; tells whether it was shown before. -/
def show? (a : Address) : Drawing Bool := do
  let s ← get
  if s.shown.contains a then return true
  set { s with shown := a :: s.shown }
  return false

end Sketch

namespace Picture

variable {Code Host : Type}

/-- The parts in the slots of named fields. -/
def named (fields : List (String × Nat)) (parts : List Picture) : List (String × Picture) :=
  fields.filterMap fun (name, slot) => parts[slot]?.map fun part => (name, part)

mutual

/-- Draws a value, handles by means of `handle`. -/
def drawWith (w : World Code Host) (handle : Value → Address → Drawing Picture) :
    Value → Drawing Picture
  | .null => pure .null
  | .bool b => pure (.bool b)
  | .int n => pure (.int n)
  | .float x => pure (.float x)
  | .char c => pure (.char c)
  | .str s => pure (.str s)
  | .struct t fields => do
    let parts ← drawAll w handle fields
    return .struct (w.types.name t) (named (w.types.instanceFields t) parts)
  | .object a => handle (.object a) a
  | .array a => handle (.array a) a
  | .list a => handle (.list a) a

/-- Draws some values in order. -/
def drawAll (w : World Code Host) (handle : Value → Address → Drawing Picture) :
    List Value → Drawing (List Picture)
  | [] => pure []
  | v :: vs => do
    let part ← drawWith w handle v
    return part :: (← drawAll w handle vs)

end

/-- Draws a handle, if `levels` more handles may be nested in each other. -/
def drawHandle (w : World Code Host) : Nat → Value → Address → Drawing Picture
  | 0, _, a => return .ref (← Sketch.numberOf a)
  | levels + 1, v, a => do
    let number ← Sketch.numberOf a
    if ← Sketch.show? a then return .ref number
    let parts ← match (w.borrow (.entity a)).share? with
      | none => pure none
      | some _ => some <$> drawAll w (drawHandle w levels) (w.cells (.entity a)).toList
    match v with
    | .array _ => return .array number parts
    | .list _ => return .list number parts
    | v =>
      let fields := (w.typeOf? v).elim [] w.types.instanceFields
      return .object (w.typeName v) number (parts.map (named fields))

/-- Draws a value. No address is shown twice, so handles cannot be nested deeper than there are
entities. -/
def draw (w : World Code Host) (v : Value) (numbers : Array Address) : Picture × Array Address :=
  let (picture, sketch) :=
    (drawWith w (drawHandle w (w.entities.size + 1)) v).run { numbers, shown := [] }
  (picture, sketch.numbers)

end Picture

/-- A picture of a typed view. -/
inductive ViewPicture where
  | plain (p : Picture)
  | single (x : Binary32)
  | nothing
  | just (inner : ViewPicture)
deriving Repr, Inhabited

/-- Draws a typed view. -/
def View.draw {Code Host : Type} (w : World Code Host) (numbers : Array Address) :
    View → ViewPicture × Array Address
  | .plain v =>
    let (p, numbers) := Picture.draw w v numbers
    (.plain p, numbers)
  | .single x => (.single x, numbers)
  | .nothing => (.nothing, numbers)
  | .just inner =>
    let (p, numbers) := View.draw w numbers inner
    (.just p, numbers)

end ObjectGraph
