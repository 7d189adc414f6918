import ObjectGraph.Script.Session

/-!
# Evaluating expressions

Expressions are evaluated from left to right. Evaluating a path may run code; its failures, and
those of fields, give null.
-/

namespace ObjectGraph.Script

open ObjectGraph.Action

/-- Wraps a value in collections of one element each. -/
def wrap (inLists : Bool) : Nat → Value → Act Value
  | 0, v => pure v
  | levels + 1, v => do
    let inner ← if inLists then newList #[v] else newArray #[v]
    wrap inLists levels inner

/-- Writes a field of an object or struct by its name, if that is possible. -/
def withField (owner : Value) (name : String) (v : Value) : Act Value :=
  match owner with
  | .object a => do
    let _ ← setObjectField a name v
    return owner
  | .struct t fields => do
    match setStructField (← getWorld) t fields name v with
    | .ok fields => return .struct t fields
    | .error _ => return owner
  | _ => pure owner

/-- Reads a field of an object or struct by its name. -/
def fieldOf? (owner : Value) (name : String) : Act (Option Value) :=
  match owner with
  | .object a => objectField? a name
  | .struct t fields => gets fun w => structField? w.types t fields name
  | _ => pure none

/-- The sum of two integers; null for anything else. -/
def sumOf : Value → Value → Value
  | .int a, .int b => .int (a + b)
  | _, _ => .null

mutual

/-- The value of an expression. -/
def eval (beh : Behaviour Routine Session) : Expr → Act Value
  | .null => pure .null
  | .bool b => pure (.bool b)
  | .int n => pure (.int n)
  | .float x => pure (.float x)
  | .char c => pure (.char c)
  | .str s => pure (.str s)
  | .list items => do newList (← evalAll beh items).toArray
  | .array items => do newArray (← evalAll beh items).toArray
  | .fill count item => do newArray (Array.replicate count (← eval beh item))
  | .nest inLists levels item => do wrap inLists levels (← eval beh item)
  | .range count => newList ((Array.range count).map fun i => .int (Int64.ofNat i))
  | .repeated s count => pure (.str (String.join (List.replicate count s)))
  | .new key fields => do
    match ← Act.type? key with
    | none => return .null
    | some t => evalFields beh (← newInstance beh t) fields
  | .var name => do return (← Act.read? name).getD .null
  | .path root path => do
    let root ← eval beh root
    if root.isNull then return .null
    match ← PathAccess.getValue beh {} root path with
    | .ok v => return v
    | .error _ => return .null
  | .field owner name => do
    return (← fieldOf? (← eval beh owner) name).getD .null
  | .add a b => do
    let a ← eval beh a
    return sumOf a (← eval beh b)

/-- The values of some expressions, in order. -/
def evalAll (beh : Behaviour Routine Session) : List Expr → Act (List Value)
  | [] => pure []
  | e :: es => do
    let v ← eval beh e
    return v :: (← evalAll beh es)

/-- Writes fields of an instance, in order. -/
def evalFields (beh : Behaviour Routine Session) (owner : Value) :
    List (String × Expr) → Act Value
  | [] => pure owner
  | (name, e) :: fields => do
    let owner ← withField owner name (← eval beh e)
    evalFields beh owner fields

end

end ObjectGraph.Script
