import ObjectGraph.Value
import ObjectGraph.Text.Decimal

/-!
# Failures of storage access

What can go wrong when fields and elements are read and written directly. Each failure is a
cause; its wording is given by a function `message`. A kind in a message is worded with the names
of the types it refers to.
-/

namespace ObjectGraph

/-- A failed access to a storage. -/
inductive StorageError where
  /-- The storage is borrowed by an access that is still going on. -/
  | busy
  | slotOutOfBounds (slot len : Nat)
deriving DecidableEq, Repr, Inhabited

def StorageError.message : StorageError → String
  | .busy => "storage is already borrowed by an enclosing access"
  | .slotOutOfBounds slot len =>
    "slot " ++ Decimal.text slot ++ " is out of bounds for storage of " ++ Decimal.text len ++
      " slots"

/-- A failed write to a field by its name. -/
inductive WriteError where
  | missingField (type name : String)
  | kindMismatch (expected : ValueKind) (found : Tag)
  | storage (error : StorageError)
deriving DecidableEq, Repr, Inhabited

def WriteError.message (typeName : TypeId → String) : WriteError → String
  | .missingField type name => "type `" ++ type ++ "` has no instance field named `" ++ name ++ "`"
  | .kindMismatch expected found =>
    "expected a value of kind " ++ expected.text typeName ++ ", found " ++ found.text
  | .storage error => error.message

/-- A failed access to an element by its position. -/
inductive ElementError where
  | outOfRange (index len : Nat)
  | storage (error : StorageError)
deriving DecidableEq, Repr, Inhabited

/-- The wording of a position that a collection does not have. -/
def outOfRangeMessage (index len : Nat) : String :=
  "index " ++ Decimal.text index ++ " is out of range for a collection of " ++ Decimal.text len ++
    " elements"

def ElementError.message : ElementError → String
  | .outOfRange index len => outOfRangeMessage index len
  | .storage error => error.message

/-- A declaration that does not make a type. -/
inductive BuildError where
  | valueTypeWithBase (name : String)
  | valueTypeAsBase (derived base : String)
deriving DecidableEq, Repr, Inhabited

def BuildError.message : BuildError → String
  | .valueTypeWithBase name => "value type `" ++ name ++ "` cannot declare a base type"
  | .valueTypeAsBase derived base =>
    "`" ++ derived ++ "` cannot derive from value type `" ++ base ++ "`"

/-- A call that its caller must not make. -/
inductive Misuse where
  /-- A path was followed from the null value. -/
  | nullRoot
  | valueTypeAsObject (name : String)
  | classAsStruct (name : String)
  /-- A collection was measured, copied or resized while its storage was borrowed. -/
  | borrowed
deriving DecidableEq, Repr, Inhabited

def Misuse.message : Misuse → String
  | .nullRoot => "path access requires a non-null root value"
  | .valueTypeAsObject name =>
    "`" ++ name ++ "` is a value type and cannot be instantiated as an object"
  | .classAsStruct name => "`" ++ name ++ "` is a class and cannot be instantiated as a struct"
  | .borrowed => "the storage is borrowed"

end ObjectGraph
