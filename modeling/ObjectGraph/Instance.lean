import ObjectGraph.Storage

/-!
# Instances

Instances of the declared types and access to their fields by name. The first value of a field is
the default of its kind or is computed by code of the host. A field of a value type begins with a
new instance of that type; since a kind refers to types declared earlier only, this comes to an
end.

Writing a field by name checks the value against the kind of the field; writing a slot does not.
-/

namespace ObjectGraph

open ObjectGraph.Action

variable {Code Host : Type}

mutual

/-- A new instance: an object of a class, a struct of a value type. -/
def newInstance (beh : Behaviour Code Host) (t : TypeId) : Action Code Host Value := do
  let types ← gets (·.types)
  let fields ← (types.info t).inits.mapM (initialValue beh t)
  match types.kind t with
  | .value => return .struct t fields
  | .reference => transform fun w =>
    let (a, w) := w.allocate (.object t) fields.toArray
    (.object a, w)
termination_by (t, 1)

/-- The first value of a field of an instance of `owner`. -/
def initialValue (beh : Behaviour Code Host) (owner : TypeId) :
    FieldInit Code → Action Code Host Value
  | .computed code => beh.initial code
  | .default .bool => pure (.bool false)
  | .default .int => pure (.int 0)
  | .default .float => pure (.float .zero)
  | .default .char => pure (.char (Char.ofNat 0))
  | .default (.struct t) => if t < owner then newInstance beh t else pure .null
  | .default _ => pure .null
termination_by (owner, 0)

end

/-- The value that a field of a kind holds before anything is written to it. -/
def defaultValue (beh : Behaviour Code Host) : ValueKind → Action Code Host Value
  | .struct t => newInstance beh t
  | kind => initialValue beh 0 (.default kind)

/-- A new object of a type that has to be a class. -/
def newObject (beh : Behaviour Code Host) (t : TypeId) :
    Action Code Host (Except Misuse Value) := do
  let types ← gets (·.types)
  match types.kind t with
  | .reference => return .ok (← newInstance beh t)
  | .value => return .error (.valueTypeAsObject (types.name t))

/-- A new struct of a type that has to be a value type. -/
def newStruct (beh : Behaviour Code Host) (t : TypeId) :
    Action Code Host (Except Misuse Value) := do
  let types ← gets (·.types)
  match types.kind t with
  | .value => return .ok (← newInstance beh t)
  | .reference => return .error (.classAsStruct (types.name t))

/-! ## Fields of objects -/

/-- Reads a field of an object; nothing if there is no such field or the object is busy. -/
def objectField? (a : Address) (name : String) : Action Code Host (Option Value) := do
  let w ← getWorld
  match (w.typeOf? (.object a)).bind fun t => w.types.instanceField? t name with
  | none => return none
  | some (slot, _) => return (← readSlot (.entity a) slot).toOption

/-- The slot of a field that a value is to be written to, if it exists and takes the value. -/
def fieldFor (w : World Code Host) (t : TypeId) (name : String) (v : Value) :
    Except WriteError Nat :=
  match w.types.instanceField? t name with
  | none => .error (.missingField (w.types.name t) name)
  | some (slot, kind) =>
    if w.accepts kind v then .ok slot else .error (.kindMismatch kind v.tag)

/-- Writes a field of an object. -/
def setObjectField (a : Address) (name : String) (v : Value) :
    Action Code Host (Except WriteError Unit) := do
  let w ← getWorld
  match w.typeOf? (.object a) with
  | none => return .error (.missingField (w.typeName (.object a)) name)
  | some t =>
    match fieldFor w t name v with
    | .error e => return .error e
    | .ok slot =>
      match ← writeSlot (.entity a) slot v with
      | .ok _ => return .ok ()
      | .error e => return .error (.storage e)

/-! ## Fields of structs -/

/-- The field of a struct of type `t`. -/
def structField? (types : TypeTable Code) (t : TypeId) (fields : List Value) (name : String) :
    Option Value :=
  (types.instanceField? t name).bind fun field => fields[field.1]?

/-- The fields of a struct of type `t` after a field has been written. -/
def setStructField (w : World Code Host) (t : TypeId) (fields : List Value) (name : String)
    (v : Value) : Except WriteError (List Value) :=
  match fieldFor w t name v with
  | .error e => .error e
  | .ok slot =>
    if slot < fields.length then .ok (fields.set slot v)
    else .error (.storage (.slotOutOfBounds slot fields.length))

end ObjectGraph
