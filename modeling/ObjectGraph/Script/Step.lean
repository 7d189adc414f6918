import ObjectGraph.Access.PathAccess
import ObjectGraph.Registry
import ObjectGraph.Text.Padding

/-!
# Scripts

A script is a list of steps that declare types, create values, read and write them, and ask
questions about them. Expressions compute the values that steps work on. Types are known by keys
of the script, values by variables.

The code of properties, methods and initial values is a routine: more steps, and an expression for
the result. Steps that open a storage contain the steps that run while it is open.
-/

namespace ObjectGraph.Script

/-- An expression for a value. -/
inductive Expr where
  | null
  | bool (b : Bool)
  | int (n : Int64)
  | float (x : Binary64)
  | char (c : Char)
  | str (s : String)
  /-- A new list of the values of some expressions. -/
  | list (items : List Expr)
  | array (items : List Expr)
  /-- A new array that holds one value in all places. -/
  | fill (count : Nat) (item : Expr)
  /-- A value wrapped in collections of one element each. -/
  | nest (inLists : Bool) (levels : Nat) (item : Expr)
  /-- A new list of the numbers below a bound. -/
  | range (count : Nat)
  /-- A text repeated. -/
  | repeated (s : String) (count : Nat)
  /-- A new instance, with some fields written. Failed writes are passed over. -/
  | new (type : String) (fields : List (String × Expr))
  /-- The value of a variable; null if it has none. -/
  | var (name : String)
  /-- The value at a path; null on any failure. -/
  | path (root : Expr) (path : String)
  /-- The value of a field; null if there is none. -/
  | field (owner : Expr) (name : String)
  /-- The sum of two integers, which wraps around; null for anything else. -/
  | add (a b : Expr)
deriving Repr, Inhabited

/-- How the setter of a property ends, once its steps have run. -/
inductive Verdict where
  /-- The value is written to a field of the receiver. -/
  | store (field : String)
  /-- The value is written to a static field. -/
  | storeStatic (type : String) (slot : Nat)
  /-- The value is refused if it is not of the kind `only`, and otherwise with `failure`; it is
  taken if neither is given. -/
  | judge (only : Option (Kind String)) (failure : Option WriteError)
deriving Repr, Inhabited

mutual

/-- One step of a script. -/
inductive Step where
  -- types
  | declareType (key : String) (kind : TypeKind) (name : String) (clauses : List Decl)
  | describe (type : String)
  | typeText (type : String) (isBroken : Bool)
  | declared (type name : String)
  | resolve (type name : String)
  | instanceField (type name : String)
  | subtype (a b : String)
  | sameType (a b : String)
  | readStatic (type : String) (slot : Nat)
  | writeStatic (type : String) (slot : Nat) (value : Expr)
  | accepts (kind : Kind String) (value : Expr)
  | defaultOf (kind : Kind String)
  | kindText (kind : Kind String)
  | sameKind (a b : Kind String)
  | padKind (padding : Padding) (kind : Kind String)
  | padType (padding : Padding) (type : String)
  -- registry
  | register (type : String)
  | lookup (name : String)
  | lookupIs (name type : String)
  | instantiate (name : String)
  | registry
  -- values
  | assign (var : String) (value : Expr)
  | showValue (value : Expr)
  | info (value : Expr)
  | diagnose (value : Expr) (isBroken : Bool)
  | equal (a b : Expr)
  | sameHandle (a b : Expr)
  | view (value : Expr) (type : NativeType)
  | ofNative (native : Native)
  -- objects and structs
  | newObject (type : String)
  | newStruct (type : String)
  | field (on : Expr) (name : String)
  | setField (on : Expr) (name : String) (value : Expr)
  | setStructField (var name : String) (value : Expr)
  | slot (on : Expr) (slot : Nat)
  | writeSlot (on : Expr) (slot : Nat) (value : Expr)
  /-- Runs steps while an object is borrowed for reading. -/
  | withFields (on : Expr) (steps : List Step)
  -- collections
  | push (on value : Expr)
  | pop (on : Expr)
  | truncate (on : Expr) (len : Nat)
  | items (on : Expr)
  | elementAt (on : Expr) (index : UInt64)
  | setElementAt (on : Expr) (index : UInt64) (value : Expr)
  /-- Runs steps while a cursor is open, for reading or for writing. -/
  | cursor (forWriting : Bool) (on : Expr) (steps : List Step)
  -- the cursor that is open around the step
  | advance
  | visited
  | current
  | replace (value : Expr)
  -- paths
  | get (options : AccessOptions) (on : Expr) (path : String) (type : Option NativeType)
  | tryGet (options : AccessOptions) (on : Expr) (path : String) (type : NativeType)
  | set (options : AccessOptions) (on : Expr) (path : String) (value : Expr)
  | deferred (on : Expr) (token : Token) (value : Expr)
  | classify (error : ElementError)
  -- exports
  | exportTree (value : Expr) (depth : Nat)
  | json (value : Expr)

/-- Code of a member: steps, then a result, and for setters a verdict. -/
inductive Routine where
  | mk (steps : List Step) (result : Expr) (verdict : Verdict)

/-- A clause of the declaration of a type. -/
inductive Decl where
  | extends (type : String)
  | field (name : String) (kind : Kind String)
  | fieldWith (name : String) (kind : Kind String) (code : Routine)
  | staticField (name : String) (kind : Kind String) (value : Expr)
  | property (name : String) (isStatic : Bool) (getter : Routine) (setter : Option Routine)
  | method (name : String) (isStatic : Bool) (call : Routine)
  | nonPublic

end

instance : Inhabited Step := ⟨.registry⟩

instance : Inhabited Routine := ⟨.mk [] .null (.judge none none)⟩

end ObjectGraph.Script
