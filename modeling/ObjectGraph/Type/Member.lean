import ObjectGraph.Value

/-!
# Members of a type

A type declares fields, properties and methods. Properties and methods run code of the host
program; a member holds only a reference to it, of a type `Code` that the host chooses.
-/

namespace ObjectGraph

/-- The declared visibility of a member. Looking a member up by name does not depend on it. -/
inductive Visibility where
  | pub
  | nonPublic
deriving DecidableEq, Repr, Inhabited

/-- What a member gives access to. -/
inductive Content (Code : Type) where
  /-- A stored field: a slot of the instance, or of the static storage of the declaring type. -/
  | field (slot : Nat) (kind : ValueKind)
  /-- A computed property, read-only without a setter. -/
  | property (getter : Code) (setter : Option Code)
  /-- A method without arguments, which is called to read the member. -/
  | method (call : Code)
deriving Repr, Inhabited

/-- A member that a type declares. A static member is used without a receiver. -/
structure Member (Code : Type) where
  name : String
  visibility : Visibility
  isStatic : Bool
  content : Content Code
deriving Repr, Inhabited

namespace Member

variable {Code : Type}

def isField (m : Member Code) : Bool :=
  match m.content with
  | .field .. => true
  | _ => false

def isProperty (m : Member Code) : Bool :=
  match m.content with
  | .property .. => true
  | _ => false

def isMethod (m : Member Code) : Bool :=
  match m.content with
  | .method _ => true
  | _ => false

/-- Fields and properties with a setter can be assigned. -/
def isWritable (m : Member Code) : Bool :=
  match m.content with
  | .field .. => true
  | .property _ setter => setter.isSome
  | .method _ => false

/-- The slot and kind of a field of instances. -/
def instanceField? (m : Member Code) : Option (Nat × ValueKind) :=
  match m.isStatic, m.content with
  | false, .field slot kind => some (slot, kind)
  | _, _ => none

/-- The slot and kind of a static field. -/
def staticField? (m : Member Code) : Option (Nat × ValueKind) :=
  match m.isStatic, m.content with
  | true, .field slot kind => some (slot, kind)
  | _, _ => none

end Member

/-- How a field of a new instance gets its value. -/
inductive FieldInit (Code : Type) where
  /-- The default of the kind of the field. -/
  | default (kind : ValueKind)
  /-- The result of code that runs for each new instance. -/
  | computed (code : Code)
deriving Repr, Inhabited

end ObjectGraph
