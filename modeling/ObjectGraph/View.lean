import ObjectGraph.Value

/-!
# Typed views

A value can be viewed as a native type of the host program. Views never convert between sorts: an
integer is viewed as an integer type whose range holds it, but not as a floating-point type. An
optional view maps null to nothing.
-/

namespace ObjectGraph

/-- The native integer types. -/
inductive IntType where
  | i8 | i16 | i32 | i64 | isize
  | u8 | u16 | u32 | u64 | usize
deriving DecidableEq, Repr, Inhabited

namespace IntType

def isSigned : IntType → Bool
  | .i8 | .i16 | .i32 | .i64 | .isize => true
  | .u8 | .u16 | .u32 | .u64 | .usize => false

def bits : IntType → Nat
  | .i8 | .u8 => 8
  | .i16 | .u16 => 16
  | .i32 | .u32 => 32
  | .i64 | .u64 | .isize | .usize => 64

/-- The least number of the type. -/
def least (t : IntType) : Int := if t.isSigned then -(twoTo (t.bits - 1) : Int) else 0

/-- The greatest number of the type. -/
def greatest (t : IntType) : Int :=
  (twoTo (if t.isSigned then t.bits - 1 else t.bits) : Int) - 1

/-- The number belongs to the type. -/
def holds (t : IntType) (n : Int) : Bool := t.least ≤ n && n ≤ t.greatest

def text : IntType → String
  | .i8 => "i8"
  | .i16 => "i16"
  | .i32 => "i32"
  | .i64 => "i64"
  | .isize => "isize"
  | .u8 => "u8"
  | .u16 => "u16"
  | .u32 => "u32"
  | .u64 => "u64"
  | .usize => "usize"

end IntType

/-- A native type that values can be viewed as. -/
inductive NativeType where
  | int (type : IntType)
  | bool
  | char
  | float32
  | float64
  /-- An owned string. -/
  | string
  /-- A shared string. -/
  | sharedString
  | value
  | struct
  | object
  | array
  | list
  | optional (type : NativeType)
deriving DecidableEq, Repr, Inhabited

/-- The name of a native type, as a failed conversion prints it. -/
def NativeType.text : NativeType → String
  | .int type => type.text
  | .bool => "bool"
  | .char => "char"
  | .float32 => "f32"
  | .float64 => "f64"
  | .string => "alloc::string::String"
  | .sharedString => "alloc::rc::Rc<str>"
  | .value => "vc_object::value::Value"
  | .struct => "vc_object::value::object::StructValue"
  | .object => "vc_object::value::object::ObjectRef"
  | .array => "vc_object::value::collection::ArrayRef"
  | .list => "vc_object::value::collection::ListRef"
  | .optional type => "core::option::Option<" ++ type.text ++ ">"

/-- A value viewed as a native type. -/
inductive View where
  /-- The value itself, seen as the native type. -/
  | plain (v : Value)
  /-- A number rounded to 32 bits. -/
  | single (x : Binary32)
  | nothing
  | just (inner : View)
deriving Repr, Inhabited

/-- Views a value as a native type, if that is possible. -/
def Value.view? : NativeType → Value → Option View
  | .optional _, .null => some .nothing
  | .optional type, v => (v.view? type).map .just
  | .value, v => some (.plain v)
  | .int type, .int n => if type.holds n.toInt then some (.plain (.int n)) else none
  | .bool, .bool b => some (.plain (.bool b))
  | .char, .char c => some (.plain (.char c))
  | .float32, .float x => some (.single x.narrow)
  | .float64, .float x => some (.plain (.float x))
  | .string, .str s => some (.plain (.str s))
  | .sharedString, .str s => some (.plain (.str s))
  | .struct, .struct t fields => some (.plain (.struct t fields))
  | .object, .object a => some (.plain (.object a))
  | .array, .array a => some (.plain (.array a))
  | .list, .list a => some (.plain (.list a))
  | _, _ => none

/-- A native datum that can be made into a value. -/
inductive Native where
  | int (n : Int64)
  | bool (b : Bool)
  | char (c : Char)
  | float32 (x : Binary32)
  | float64 (x : Binary64)
  | string (s : String)
  | nothing
deriving Repr, Inhabited

/-- The value of a native datum. -/
def Value.ofNative : Native → Value
  | .int n => .int n
  | .bool b => .bool b
  | .char c => .char c
  | .float32 x => .float x.widen
  | .float64 x => .float x
  | .string s => .str s
  | .nothing => .null

end ObjectGraph
