import ObjectGraph.Cursor
import ObjectGraph.Instance

/-!
# One step along a path

A step takes a container and a token and reads the value that the token selects: a field, the
result of a getter or of a method, or an element. Which member a name stands for depends on the
type of the container only.

Methods are called only if the options allow it; getters always run.
-/

namespace ObjectGraph

open ObjectGraph.Action

/-- Whether methods may be called while a path is read. -/
inductive MethodCalls where
  | invoke
  | deny
deriving DecidableEq, Repr, Inhabited

/-- The options of path access. -/
structure AccessOptions where
  methodCalls : MethodCalls := .invoke
deriving DecidableEq, Repr, Inhabited

/-- The options under which no method is called. -/
def AccessOptions.sideEffectFree : AccessOptions := { methodCalls := .deny }

variable {Code Host : Type}

/-- Finds the member that a name stands for on a container. -/
def World.resolveOn (w : World Code Host) (container : Value) (name : String) :
    Except AccessFault (ResolvedMember Code) :=
  match (w.typeOf? container).bind fun t => w.types.resolveMember t name with
  | some found => .ok found
  | none => .error (.memberNotFound (w.typeName container) name)

/-- The receiver that the code of a member is run with. -/
def Member.receiver? (m : Member Code) (container : Value) : Option Value :=
  if m.isStatic then none else some container

/-- Reads a field of an instance. -/
def readInstanceSlot (container : Value) (slot : Nat) :
    Action Code Host (Except AccessFault Value) :=
  match container with
  | .object a => do return (← readSlot (.entity a) slot).mapError .ofStorage
  | .struct _ fields => pure ((slotOf fields.toArray slot).mapError .ofStorage)
  | _ => pure (.error (.storage (.slotOutOfBounds slot 0)))

/-- Reads a member by its name. -/
def readMember (beh : Behaviour Code Host) (options : AccessOptions) (container : Value)
    (name : String) : Action Code Host (Except AccessFault Value) := do
  match (← getWorld).resolveOn container name with
  | .error fault => return .error fault
  | .ok { owner, member } =>
    match member.content with
    | .field slot _ =>
      if member.isStatic then
        return (← readSlot (.statics owner) slot).mapError .ofStorage
      else readInstanceSlot container slot
    | .property getter _ => return .ok (← beh.getter getter (member.receiver? container))
    | .method call =>
      match options.methodCalls with
      | .invoke => return .ok (← beh.method call (member.receiver? container))
      | .deny => return .error (.methodCallDenied name)

/-- Reads an element by its position. -/
def readElement (container : Value) (index : UInt64) :
    Action Code Host (Except AccessFault Value) :=
  match container.collection? with
  | none => pure (.error (.notCollection container.tag))
  | some a => do return (← elementAt a index).mapError .ofElement

/-- Reads the value that a token selects from a container. -/
def readStep (beh : Behaviour Code Host) (options : AccessOptions) (container : Value)
    (token : Token) : Action Code Host (Except AccessFault Value) :=
  if container.isNull then pure (.error .nullIntermediate)
  else match token with
    | .member name => readMember beh options container name
    | .element index => readElement container index

end ObjectGraph
