import ObjectGraph.Error
import ObjectGraph.Type.Table

/-!
# Declaring types

A type is declared by a sequence of clauses. Members are kept in the order of their clauses. The
slots of the fields are counted from zero while the clauses are read; once all of them are known,
the fields of instances are moved behind those of the base class. Static fields keep their slots,
as each type stores its own.
-/

namespace ObjectGraph

/-- One clause of the declaration of a type. -/
inductive Clause (Code : Type) where
  /-- Names the base class; the last such clause counts. -/
  | extends (base : TypeId)
  /-- A field of instances that begins with the default of its kind. -/
  | field (name : String) (kind : ValueKind)
  /-- A field of instances that begins with the result of code. -/
  | fieldWith (name : String) (kind : ValueKind) (code : Code)
  | staticField (name : String) (kind : ValueKind) (value : Value)
  | property (name : String) (isStatic : Bool) (getter : Code) (setter : Option Code)
  | method (name : String) (isStatic : Bool) (call : Code)
  /-- Marks the member declared last as non-public. -/
  | nonPublic
deriving Repr, Inhabited

/-- A declaration that is being read. -/
structure TypeBuilder (Code : Type) where
  name : String
  kind : TypeKind
  base : Option TypeId := none
  members : List (Member Code) := []
  /-- Initial values of the fields of instances, in the order of their slots. -/
  inits : List (FieldInit Code) := []
  /-- Values of the static fields, in the order of their slots. -/
  statics : List Value := []
deriving Repr, Inhabited

/-- Marks the last of some members as non-public. -/
def hideLast {Code : Type} : List (Member Code) → List (Member Code)
  | [] => []
  | [m] => [{ m with visibility := .nonPublic }]
  | m :: next :: rest => m :: hideLast (next :: rest)

namespace TypeBuilder

variable {Code : Type}

/-- A declaration without any clause. -/
def start (kind : TypeKind) (name : String) : TypeBuilder Code := { name, kind }

def addMember (b : TypeBuilder Code) (name : String) (isStatic : Bool) (content : Content Code) :
    TypeBuilder Code :=
  { b with members := b.members ++ [{ name, visibility := .pub, isStatic, content }] }

def addField (b : TypeBuilder Code) (name : String) (kind : ValueKind) (init : FieldInit Code) :
    TypeBuilder Code :=
  { b.addMember name false (.field b.inits.length kind) with inits := b.inits ++ [init] }

/-- Reads one clause. -/
def declare (b : TypeBuilder Code) : Clause Code → TypeBuilder Code
  | .extends base => { b with base := some base }
  | .field name kind => b.addField name kind (.default kind)
  | .fieldWith name kind code => b.addField name kind (.computed code)
  | .staticField name kind value =>
    { b.addMember name true (.field b.statics.length kind) with statics := b.statics ++ [value] }
  | .property name isStatic getter setter => b.addMember name isStatic (.property getter setter)
  | .method name isStatic call => b.addMember name isStatic (.method call)
  | .nonPublic => { b with members := hideLast b.members }

/-- Reads some clauses in order. -/
def ofClauses (kind : TypeKind) (name : String) (clauses : List (Clause Code)) :
    TypeBuilder Code :=
  clauses.foldl declare (start kind name)

/-- Moves a field of instances behind `offset` slots. -/
def shiftSlot (offset : Nat) (m : Member Code) : Member Code :=
  match m.isStatic, m.content with
  | false, .field slot kind => { m with content := .field (slot + offset) kind }
  | _, _ => m

/-- The description of the declared type, whose base class is in the table. -/
def describe (b : TypeBuilder Code) (types : TypeTable Code) : TypeInfo Code :=
  let offset := b.base.elim 0 fun base => (types.info base).fieldSlots
  let members := b.members.map (shiftSlot offset)
  { name := b.name
    kind := b.kind
    bases := b.base.elim [] types.ancestors
    members
    positions := NameTable.ofNames [] 0 (members.map (·.name))
    inits := b.base.elim [] (fun base => (types.info base).inits) ++ b.inits }

/-- Why the declaration makes no type, if it does not: only classes derive, and only from
classes. -/
def fault? (b : TypeBuilder Code) (types : TypeTable Code) : Option BuildError :=
  match b.base with
  | none => none
  | some base =>
    if b.kind = .value then some (.valueTypeWithBase b.name)
    else if types.isValueType base then some (.valueTypeAsBase b.name (types.name base))
    else none

end TypeBuilder

end ObjectGraph
