import ObjectGraph.Error
import ObjectGraph.Path.Token

/-!
# Failures of path access

An `AccessError` tells what went wrong on the way along a path and at which token. The causes are
those of reading and writing storage, seen from the path, and those of the path itself.
-/

namespace ObjectGraph

/-- A place that can never be written. -/
inductive Unwritable where
  | property
  | method
  /-- The root, named by the empty path. -/
  | root
deriving DecidableEq, Repr, Inhabited

def Unwritable.text : Unwritable → String
  | .property => "property"
  | .method => "method"
  | .root => "root"

/-- Why a step along a path cannot be taken. -/
inductive AccessFault where
  /-- No member of this name; `type` is the sort of a value that has no members at all. -/
  | memberNotFound (type name : String)
  | nullIntermediate
  /-- A value of the wrong sort was read or written. -/
  | typeMismatch (expected : String) (found : Tag)
  | notWritable (what : Unwritable) (name : String)
  /-- The member belongs to a copy of a struct, so that writing it would have no effect. -/
  | immutableContainer (type : String)
  | malformed (fault : IndexFault)
  | notCollection (found : Tag)
  | indexOutOfRange (index len : Nat)
  | methodCallDenied (name : String)
  /-- The storage is borrowed by an access that is still going on. -/
  | reentrant
  | setterFailed (error : WriteError)
  | storage (error : StorageError)
deriving DecidableEq, Repr, Inhabited

namespace AccessFault

def message (typeName : TypeId → String) : AccessFault → String
  | .memberNotFound type name => "`" ++ type ++ "` has no member named `" ++ name ++ "`"
  | .nullIntermediate => "cannot step into a null value"
  | .typeMismatch expected found => "expected " ++ expected ++ ", found " ++ found.text
  | .notWritable what name => what.text ++ " `" ++ name ++ "` is not writable"
  | .immutableContainer type =>
    "`" ++ type ++ "` is a value type; writing into a copy of it is rejected"
  | .malformed fault => fault.message
  | .notCollection found => "cannot index into " ++ found.text
  | .indexOutOfRange index len => outOfRangeMessage index len
  | .methodCallDenied name => "calling method `" ++ name ++ "` is denied by the access options"
  | .reentrant => "storage was re-entered while it was borrowed"
  | .setterFailed error => "property setter failed: " ++ error.message typeName
  | .storage error => error.message

/-- A failed storage access, seen from a path. -/
def ofStorage : StorageError → AccessFault
  | .busy => .reentrant
  | error => .storage error

/-- A failed element access, seen from a path. -/
def ofElement : ElementError → AccessFault
  | .outOfRange index len => .indexOutOfRange index len
  | .storage error => ofStorage error

end AccessFault

/-- A failed access, with the token at fault and the offset of its segment. A malformed segment
has an offset only, and a failure of the path as a whole has neither. -/
structure AccessError where
  fault : AccessFault
  token : Option Token
  offset : Option Nat
deriving DecidableEq, Repr, Inhabited

namespace AccessError

/-- A failure of the step that a token names. -/
def atToken (token : OffsetToken) (fault : AccessFault) : AccessError :=
  { fault, token := some token.token, offset := some token.offset }

/-- A failure that belongs to no segment. -/
def wholePath (fault : AccessFault) : AccessError := { fault, token := none, offset := none }

/-- A malformed segment. -/
def ofParse (e : ParseError) : AccessError :=
  { fault := .malformed e.fault, token := none, offset := some e.offset }

def message (typeName : TypeId → String) (e : AccessError) : String :=
  let place := match e.token with
    | some token => "Error accessing `" ++ token.text ++ "`"
    | none => "Error accessing path"
  let offset := match e.offset with
    | some n => " (offset " ++ Decimal.text n ++ ")"
    | none => ""
  place ++ offset ++ ": " ++ e.fault.message typeName

end AccessError

end ObjectGraph
