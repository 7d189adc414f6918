import ObjectGraph.Script.Answer
import ObjectGraph.Script.Eval

/-!
# Declarations in scripts

A script declares a type by a list of clauses, in which types are named by keys and the values of
static fields are given by expressions. The clauses are read in order, each in the world that the
one before it has left.
-/

namespace ObjectGraph.Script

open ObjectGraph.Action

/-- The clause that a declaration stands for, if the types in it are known. -/
def Decl.clause? (beh : Behaviour Routine Session) : Decl → Act (Option (Clause Routine))
  | .extends key => do return (← Act.type? key).map .extends
  | .field name kind => do return (← Act.kind? kind).map (.field name)
  | .fieldWith name kind code => do
    return (← Act.kind? kind).map fun kind => .fieldWith name kind code
  | .staticField name kind value => do
    let kind ← Act.kind? kind
    let v ← eval beh value
    return kind.map fun kind => .staticField name kind v
  | .property name isStatic getter setter => pure (some (.property name isStatic getter setter))
  | .method name isStatic call => pure (some (.method name isStatic call))
  | .nonPublic => pure (some .nonPublic)

/-- Reads the clauses of a declaration in order. -/
def readClauses (beh : Behaviour Routine Session) (b : TypeBuilder Routine) :
    List Decl → Act (Option (TypeBuilder Routine))
  | [] => pure (some b)
  | d :: ds => do
    match ← d.clause? beh with
    | none => return none
    | some clause => readClauses beh (b.declare clause) ds

/-- Declares a type under a key. -/
def declareType (beh : Behaviour Routine Session) (key : String) (kind : TypeKind) (name : String)
    (decls : List Decl) : Act Outcome := do
  match ← readClauses beh (.start kind name) decls with
  | none => illFormed "unknown type"
  | some b =>
    match (← getWorld).declare b with
    | .error e => return .failed (.build e)
    | .ok (t, w) =>
      modify fun _ => w
      Act.modifySession fun s => { s with types := s.types.insert key t }
      return .ok .done

end ObjectGraph.Script
