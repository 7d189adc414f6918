import ObjectGraph.World

/-!
# Exporting values as trees

A value and all that can be reached from it are exported as a tree of primitives, sequences and
maps. Structs and objects become maps from field keys to values, with the fields of base classes
first; arrays and lists become sequences. A storage that is reached twice appears twice.

Graphs may contain cycles, so nesting is limited to `maxDepth` levels. The first node in the order
of the export that is nested too deep, or whose storage is being written, makes the export fail.
-/

namespace ObjectGraph

/-- An exported value. -/
inductive Tree where
  | none
  | bool (b : Bool)
  | int (n : Int64)
  | float (x : Binary64)
  | char (c : Char)
  | str (s : String)
  | seq (items : List Tree)
  | map (entries : List (String × Tree))
deriving Repr, Inhabited

/-- Why a value cannot be exported. -/
inductive ExportError where
  | tooDeep
  | busy
  /-- A field of the type has no slot in the instance. -/
  | missingSlot (type key : String)
deriving DecidableEq, Repr, Inhabited

/-- The greatest depth that a node may have. -/
def maxDepth : Nat := 64

def ExportError.message : ExportError → String
  | .tooDeep =>
    "object graph is nested deeper than " ++ Decimal.text maxDepth ++
      " levels, it may contain a reference cycle"
  | .busy => StorageError.busy.message
  | .missingSlot type key => "type `" ++ type ++ "` has no storage for field `" ++ key ++ "`"

variable {Code Host : Type}

/-- The contents of a storage, unless they are being written. -/
def World.readable (w : World Code Host) (a : Address) : Except ExportError (Array Value) :=
  match (w.borrow (.entity a)).share? with
  | some _ => .ok (w.cells (.entity a))
  | none => .error .busy

namespace Export

/-- Exports the values in the slots of some keys. -/
def entries (child : Value → Except ExportError Tree) (typeName : String) (slots : Array Value) :
    List (String × Nat) → Except ExportError (List (String × Tree))
  | [] => .ok []
  | (key, slot) :: keys => do
    match slots[slot]? with
    | none => throw (.missingSlot typeName key)
    | some v => return (key, ← child v) :: (← entries child typeName slots keys)

/-- Exports the fields of an instance. -/
def fields (child : Value → Except ExportError Tree) (w : World Code Host) (t : TypeId)
    (slots : Array Value) : Except ExportError Tree := do
  return .map (← entries child (w.types.name t) slots (w.types.instanceFieldKeys t))

/-- Exports one value, its parts by means of `child`. -/
def node (child : Value → Except ExportError Tree) (w : World Code Host) :
    Value → Except ExportError Tree
  | .null => .ok .none
  | .bool b => .ok (.bool b)
  | .int n => .ok (.int n)
  | .float x => .ok (.float x)
  | .char c => .ok (.char c)
  | .str s => .ok (.str s)
  | .struct t slots => fields child w t slots.toArray
  | .object a => do
    let slots ← w.readable a
    match w.typeOf? (.object a) with
    | some t => fields child w t slots
    | none => return .map []
  | .array a | .list a => do
    return .seq (← (← w.readable a).toList.mapM child)

/-- Exports a value when `levels` levels of nesting are left. -/
def tree (w : World Code Host) : Nat → Value → Except ExportError Tree
  | 0, _ => .error .tooDeep
  | levels + 1, v => node (tree w levels) w v

end Export

/-- Exports a value that stands at a depth. -/
def World.exportAt (w : World Code Host) (depth : Nat) (v : Value) : Except ExportError Tree :=
  Export.tree w (maxDepth + 1 - depth) v

end ObjectGraph
