import ObjectGraph.Access.Step

/-!
# Deferred writes

A deferred write is the last step of setting a value along a path: a container that has been
reached, and the token that names the place in it. The write goes to the storage itself, not to a
copy read from it. All reasons for a refusal are looked at before anything is changed.

A struct that has been reached is a copy, so its own fields and setters cannot be written through
it. Static members belong to the declaring type and can be written through any container.
-/

namespace ObjectGraph

open ObjectGraph.Action

variable {Code Host : Type}

/-- A place that is about to be written. -/
structure DeferredWrite where
  container : Value
  token : Token
deriving Repr, Inhabited

namespace DeferredWrite

/-- The refusal to write into a copy. -/
def immutable (w : World Code Host) (container : Value) : AccessFault :=
  .immutableContainer (w.typeName container)

/-- The write of a member could be seen through the container. -/
def isObservable (member : Member Code) (container : Value) : Bool :=
  member.isStatic || !container.isByValue

/-- Writes a field of an instance. -/
def writeInstanceSlot (container : Value) (slot : Nat) (v : Value) :
    Action Code Host (Except AccessFault Unit) :=
  match container with
  | .object a => do return (← writeSlot (.entity a) slot v).mapError .ofStorage
  | _ => do return .error (immutable (← getWorld) container)

/-- Writes a member by its name. -/
def writeMember (beh : Behaviour Code Host) (container : Value) (name : String) (v : Value) :
    Action Code Host (Except AccessFault Unit) := do
  let w ← getWorld
  match w.resolveOn container name with
  | .error fault => return .error fault
  | .ok { owner, member } =>
    match member.content with
    | .field slot kind =>
      if !isObservable member container then return .error (immutable w container)
      else if !w.accepts kind v then
        return .error (.typeMismatch (kind.text w.types.name) v.tag)
      else if member.isStatic then
        return (← writeSlot (.statics owner) slot v).mapError .ofStorage
      else writeInstanceSlot container slot v
    | .property _ (some setter) =>
      if !isObservable member container then return .error (immutable w container)
      else return (← beh.setter setter (member.receiver? container) v).mapError .setterFailed
    | .property _ none => return .error (.notWritable .property name)
    | .method _ => return .error (.notWritable .method name)

/-- Writes an element by its position. -/
def writeElement (container : Value) (index : UInt64) (v : Value) :
    Action Code Host (Except AccessFault Unit) :=
  match container.collection? with
  | none => pure (.error (.notCollection container.tag))
  | some a => do return (← setElementAt a index v).mapError .ofElement

/-- Performs the write. -/
def apply (beh : Behaviour Code Host) (write : DeferredWrite) (v : Value) :
    Action Code Host (Except AccessFault Unit) :=
  if write.container.isNull then pure (.error .nullIntermediate)
  else match write.token with
    | .member name => writeMember beh write.container name v
    | .element index => writeElement write.container index v

end DeferredWrite

end ObjectGraph
