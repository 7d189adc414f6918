import ObjectGraph.Binary64

/-!
# Values

A value of an object graph is null, a primitive, a struct, or a handle. Structs are values: they
carry their fields with them, and copying one copies the fields. Objects, arrays and lists are
handles: they carry the address of a storage, and all handles with one address see one storage.

Types are named by their identity, the position at which they were declared; two types of one
name are different types.
-/

namespace ObjectGraph

/-- The identity of a declared type: its position in the order of declaration. -/
abbrev TypeId := Nat

/-- The address of an object, an array or a list: its position in the order of creation. -/
abbrev Address := Nat

/-- The ten sorts of values. -/
inductive Tag where
  | null
  | bool
  | int
  | float
  | char
  | str
  | struct
  | object
  | array
  | list
deriving DecidableEq, Repr, Inhabited

/-- The name of a sort, as diagnostics print it. -/
def Tag.text : Tag → String
  | .null => "Null"
  | .bool => "Bool"
  | .int => "Int"
  | .float => "Float"
  | .char => "Char"
  | .str => "Str"
  | .struct => "Struct"
  | .object => "Object"
  | .array => "Array"
  | .list => "List"

/-- A value of an object graph. -/
inductive Value where
  | null
  | bool (b : Bool)
  | int (n : Int64)
  | float (x : Binary64)
  | char (c : Char)
  | str (s : String)
  /-- An instance of a value type, with its fields in slot order. -/
  | struct (type : TypeId) (fields : List Value)
  /-- A handle to an instance of a class. -/
  | object (address : Address)
  /-- A handle to an array. -/
  | array (address : Address)
  /-- A handle to a list. -/
  | list (address : Address)
deriving Repr, Inhabited

namespace Value

/-- The sort of a value. -/
def tag : Value → Tag
  | .null => .null
  | .bool _ => .bool
  | .int _ => .int
  | .float _ => .float
  | .char _ => .char
  | .str _ => .str
  | .struct .. => .struct
  | .object _ => .object
  | .array _ => .array
  | .list _ => .list

def isNull : Value → Bool
  | .null => true
  | _ => false

/-- A value that is a copy, and not a handle to a storage that others may hold as well. -/
def isByValue : Value → Bool
  | .object _ | .array _ | .list _ => false
  | _ => true

def bool? : Value → Option Bool
  | .bool b => some b
  | _ => none

def int? : Value → Option Int64
  | .int n => some n
  | _ => none

def float? : Value → Option Binary64
  | .float x => some x
  | _ => none

def str? : Value → Option String
  | .str s => some s
  | _ => none

/-- The address of an array or a list. -/
def collection? : Value → Option Address
  | .array a | .list a => some a
  | _ => none

/-- The address of an object, an array or a list. -/
def address? : Value → Option Address
  | .object a | .array a | .list a => some a
  | _ => none

mutual

/-- Equality of values: primitives and structs compare by content, handles by identity. -/
def equal : Value → Value → Bool
  | .null, .null => true
  | .bool a, .bool b => a == b
  | .int a, .int b => a == b
  | .float a, .float b => a.equal b
  | .char a, .char b => a == b
  | .str a, .str b => a == b
  | .struct s as, .struct t bs => s == t && equalAll as bs
  | .object a, .object b => a == b
  | .array a, .array b => a == b
  | .list a, .list b => a == b
  | _, _ => false

/-- Equality of two rows of values. -/
def equalAll : List Value → List Value → Bool
  | [], [] => true
  | a :: as, b :: bs => equal a b && equalAll as bs
  | _, _ => false

end

/-- Two handles of one sort with one address. -/
def sameHandle : Value → Value → Bool
  | .object a, .object b => a == b
  | .array a, .array b => a == b
  | .list a, .list b => a == b
  | _, _ => false

end Value

/-- The declared kind of a field, over a type of names for types. -/
inductive Kind (τ : Type) where
  | any
  | bool
  | int
  | float
  | char
  | str
  /-- Instances of exactly this value type. -/
  | struct (type : τ)
  /-- Instances of this class or of a class that derives from it. -/
  | object (type : τ)
  /-- Instances of any class. -/
  | anyObject
  | array
  | list
deriving DecidableEq, Repr, Inhabited

/-- The kind of a field of a declared type. -/
abbrev ValueKind := Kind TypeId

namespace Kind

/-- Replaces the names of types in a kind, if all of them can be replaced. -/
def traverse {σ τ : Type} (f : σ → Option τ) : Kind σ → Option (Kind τ)
  | .any => some .any
  | .bool => some .bool
  | .int => some .int
  | .float => some .float
  | .char => some .char
  | .str => some .str
  | .struct t => (f t).map .struct
  | .object t => (f t).map .object
  | .anyObject => some .anyObject
  | .array => some .array
  | .list => some .list

/-- The type that a kind refers to. -/
def type? {τ : Type} : Kind τ → Option τ
  | .struct t | .object t => some t
  | _ => none

/-- The text of a kind that refers to no type. -/
def word {τ : Type} : Kind τ → Option String
  | .any => some "Any"
  | .bool => some "Bool"
  | .int => some "Int"
  | .float => some "Float"
  | .char => some "Char"
  | .str => some "Str"
  | .anyObject => some "Object"
  | .array => some "Array"
  | .list => some "List"
  | .struct _ | .object _ => none

/-- The text of a kind. -/
def text {τ : Type} (typeName : τ → String) : Kind τ → String
  | .struct t => "Struct(" ++ typeName t ++ ")"
  | .object t => "Object(" ++ typeName t ++ ")"
  | kind => kind.word.getD ""

end Kind

end ObjectGraph
