import ObjectGraph.Type.Table

/-!
# Summaries of types

All that can be asked about a declared type and its members, in one record each.
-/

namespace ObjectGraph

/-- The three sorts of members. -/
inductive MemberSort where
  | field
  | property
  | method
deriving DecidableEq, Repr, Inhabited

def MemberSort.text : MemberSort → String
  | .field => "field"
  | .property => "property"
  | .method => "method"

def Member.sort {Code : Type} (m : Member Code) : MemberSort :=
  match m.content with
  | .field .. => .field
  | .property .. => .property
  | .method _ => .method

structure MemberSummary where
  name : String
  sort : MemberSort
  isStatic : Bool
  visibility : Visibility
  isWritable : Bool
  isField : Bool
  isProperty : Bool
  isMethod : Bool
  /-- The slot and the text of the kind of a field. -/
  field : Option (Nat × String)
deriving DecidableEq, Repr, Inhabited

structure TypeSummary where
  name : String
  /-- The text of the type for diagnostics. -/
  label : String
  kind : TypeKind
  isValueType : Bool
  base : Option String
  ancestors : List String
  members : List MemberSummary
  fieldSlots : Nat
  instanceFields : List (String × Nat)
  instanceFieldKeys : List (String × Nat)
deriving DecidableEq, Repr, Inhabited

namespace TypeTable

variable {Code : Type}

def summarizeMember (types : TypeTable Code) (m : Member Code) : MemberSummary :=
  { name := m.name
    sort := m.sort
    isStatic := m.isStatic
    visibility := m.visibility
    isWritable := m.isWritable
    isField := m.isField
    isProperty := m.isProperty
    isMethod := m.isMethod
    field := match m.content with
      | .field slot kind => some (slot, kind.text types.name)
      | _ => none }

def summarize (types : TypeTable Code) (t : TypeId) : TypeSummary :=
  { name := types.name t
    label := types.label t
    kind := types.kind t
    isValueType := types.isValueType t
    base := (types.base? t).map types.name
    ancestors := (types.ancestors t).map types.name
    members := (types.info t).members.map types.summarizeMember
    fieldSlots := (types.info t).fieldSlots
    instanceFields := types.instanceFields t
    instanceFieldKeys := types.instanceFieldKeys t }

end TypeTable

end ObjectGraph
