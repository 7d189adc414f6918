import ObjectGraph.Text.Decimal

/-!
# Path tokens

A path names a place in an object graph as a list of steps separated by `.`. A step is the name
of a member, or the reserved form `Array.data[N]` that selects element `N` of an array or list:

    quests.Array.data[1].goal
    ^^^^^^ ^^^^^^^^^^^^^ ^^^^
    member element 1     member

This module holds the tokens, their text and order, and what can be wrong with an index.
-/

namespace ObjectGraph

/-- One step of a path. -/
inductive Token where
  /-- The member of an object or struct with this name. -/
  | member (name : String)
  /-- The element of an array or list at this position, counted from zero. -/
  | element (index : UInt64)
deriving DecidableEq, Repr, Inhabited

namespace Token

/-- The text that opens an index segment. -/
def indexOpening : List Char := "Array.data[".toList

/-- The path segment that stands for the token. -/
def chars : Token → List Char
  | .member name => name.toList
  | .element index => indexOpening ++ Decimal.digits index.toNat ++ [']']

/-- The path segment that stands for the token, as a string. -/
def text (token : Token) : String := String.ofList token.chars

/-- Names come before indices, names in the order of their code points (which is the order of
their UTF-8 bytes), indices in the order of their values. -/
def compare : Token → Token → Ordering
  | .member a, .member b => Ord.compare a b
  | .member _, .element _ => .lt
  | .element _, .member _ => .gt
  | .element a, .element b => Ord.compare a b

end Token

/-- A token together with the offset, in bytes, at which its segment starts in the path. -/
structure OffsetToken where
  token : Token
  offset : Nat
deriving DecidableEq, Repr, Inhabited

/-- What is wrong with an index segment. -/
inductive IndexFault where
  /-- No `]` follows, anywhere in the rest of the path. -/
  | unclosed
  /-- Nothing stands between the brackets. -/
  | empty
  /-- Something other than ASCII digits stands between the brackets. -/
  | notDecimal
  /-- The number does not fit in 64 bits. -/
  | tooLarge
  /-- The closing bracket is followed by something other than `.`. -/
  | unseparated
deriving DecidableEq, Repr, Inhabited

/-- The wording of a fault. -/
def IndexFault.message : IndexFault → String
  | .unclosed => "missing `]` after collection index"
  | .empty => "empty collection index"
  | .notDecimal => "collection index must be a non-negative decimal integer"
  | .tooLarge => "collection index is too large"
  | .unseparated => "expected `.` after collection index"

/-- A malformed index segment, with the offset in the path that the fault is reported at. -/
structure ParseError where
  offset : Nat
  path : String
  fault : IndexFault
deriving DecidableEq, Repr, Inhabited

/-- The full message, with the offset and the path. -/
def ParseError.message (e : ParseError) : String :=
  "Encountered an error at offset " ++ Decimal.text e.offset ++ " while parsing `" ++ e.path ++
    "`: " ++ e.fault.message

end ObjectGraph
