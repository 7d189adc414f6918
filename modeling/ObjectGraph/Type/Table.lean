import ObjectGraph.Type.Member

/-!
# Declared types

The declared types form a table that only grows. A type is a class, whose instances are objects,
or a value type, whose instances are structs. A class may derive from another class, declared
before it; it keeps the list of all classes that it derives from, nearest first.

A name can stand for several members along such a chain. `resolveMember` finds the first one among
all members, `instanceField?` the first one among the fields of instances.
-/

namespace ObjectGraph

/-- Whether instances are shared or copied. -/
inductive TypeKind where
  /-- Instances are objects. -/
  | reference
  /-- Instances are structs. -/
  | value
deriving DecidableEq, Repr, Inhabited

def TypeKind.text : TypeKind → String
  | .reference => "class"
  | .value => "struct"

/-- Positions by name: the first of several positions of one name counts. -/
abbrev NameTable := List (String × Nat)

namespace NameTable

/-- Enters a position under a name that has none yet. -/
def insertIfNew (table : NameTable) (name : String) (position : Nat) : NameTable :=
  if (table.lookup name).isSome then table else table ++ [(name, position)]

/-- The table of some names that begin at a position. -/
def ofNames (table : NameTable) : Nat → List String → NameTable
  | _, [] => table
  | position, name :: names => ofNames (table.insertIfNew name position) (position + 1) names

end NameTable

/-- A declared type. -/
structure TypeInfo (Code : Type) where
  name : String
  kind : TypeKind
  /-- The classes that the type derives from, nearest first. -/
  bases : List TypeId
  /-- The members that the type itself declares, in the order of declaration. -/
  members : List (Member Code)
  /-- The position of the first member of each name. -/
  positions : NameTable
  /-- How each slot of an instance gets its first value; slots of base classes come first. -/
  inits : List (FieldInit Code)
deriving Repr, Inhabited

namespace TypeInfo

variable {Code : Type}

/-- A class without name and members. -/
def blank : TypeInfo Code :=
  { name := "", kind := .reference, bases := [], members := [], positions := [], inits := [] }

/-- The first member that the type itself declares under a name. -/
def declaredMember (info : TypeInfo Code) (name : String) : Option (Member Code) :=
  match info.positions.lookup name with
  | some position => info.members[position]?
  | none => none

/-- The number of slots of an instance. -/
def fieldSlots (info : TypeInfo Code) : Nat := info.inits.length

/-- The first field of instances that the type itself declares under a name. -/
def ownField? (info : TypeInfo Code) (name : String) : Option (Nat × ValueKind) :=
  info.members.findSome? fun m => if m.name = name then m.instanceField? else none

/-- The fields of instances that the type itself declares, with their names and slots. -/
def ownFields (info : TypeInfo Code) : List (String × Nat) :=
  info.members.filterMap fun m => m.instanceField?.map fun field => (m.name, field.1)

end TypeInfo

/-- The declared types, by identity. -/
structure TypeTable (Code : Type) where
  infos : Array (TypeInfo Code) := #[]
deriving Repr, Inhabited

/-- A member found by name, with the type that declares it. -/
structure ResolvedMember (Code : Type) where
  owner : TypeId
  member : Member Code
deriving Repr, Inhabited

namespace TypeTable

variable {Code : Type}

/-- The description of a type; an identity that is not in use describes the blank class. -/
def info (types : TypeTable Code) (t : TypeId) : TypeInfo Code := types.infos[t]?.getD .blank

/-- The number of declared types, which is also the next identity. -/
def size (types : TypeTable Code) : Nat := types.infos.size

def add (types : TypeTable Code) (info : TypeInfo Code) : TypeTable Code :=
  { infos := types.infos.push info }

def name (types : TypeTable Code) (t : TypeId) : String := (types.info t).name

/-- The text of a type for diagnostics. -/
def label (types : TypeTable Code) (t : TypeId) : String := "Type(" ++ types.name t ++ ")"

def kind (types : TypeTable Code) (t : TypeId) : TypeKind := (types.info t).kind

def isValueType (types : TypeTable Code) (t : TypeId) : Bool := types.kind t == .value

/-- The class that a type derives from directly. -/
def base? (types : TypeTable Code) (t : TypeId) : Option TypeId := (types.info t).bases.head?

/-- The type followed by the classes that it derives from, nearest first. -/
def ancestors (types : TypeTable Code) (t : TypeId) : List TypeId := t :: (types.info t).bases

/-- The first type is the second one or derives from it. -/
def isSubtype (types : TypeTable Code) (s t : TypeId) : Bool := (types.ancestors s).contains t

/-- The first member of a name along the chain of ancestors. -/
def resolveMember (types : TypeTable Code) (t : TypeId) (name : String) :
    Option (ResolvedMember Code) :=
  (types.ancestors t).findSome? fun owner =>
    ((types.info owner).declaredMember name).map fun member => { owner, member }

/-- The slot and kind of the first field of instances of a name along the chain of ancestors.
Other members of that name are passed over. -/
def instanceField? (types : TypeTable Code) (t : TypeId) (name : String) :
    Option (Nat × ValueKind) :=
  (types.ancestors t).findSome? fun owner => (types.info owner).ownField? name

/-- The name and slot of each field of instances, fields of base classes first. -/
def instanceFields (types : TypeTable Code) (t : TypeId) : List (String × Nat) :=
  (types.ancestors t).reverse.flatMap fun owner => (types.info owner).ownFields

/-- The key of a field in an export: its name if the type shows the field under that name, and
otherwise the name behind that of the declaring type. -/
def fieldKey (types : TypeTable Code) (t owner : TypeId) (name : String) (slot : Nat) : String :=
  if (types.instanceField? t name).any (·.1 == slot) then name
  else types.name owner ++ "::" ++ name

/-- The key and slot of each field of instances, fields of base classes first. -/
def instanceFieldKeys (types : TypeTable Code) (t : TypeId) : List (String × Nat) :=
  (types.ancestors t).reverse.flatMap fun owner =>
    (types.info owner).ownFields.map fun field =>
      (types.fieldKey t owner field.1 field.2, field.2)

end TypeTable

end ObjectGraph
