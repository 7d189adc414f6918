import ObjectGraph.Instance

/-!
# Type registries

A registry finds types by name. The first type registered under a name keeps it.
-/

namespace ObjectGraph

/-- The registered types with their names, in the order of registration. -/
structure Registry where
  entries : List (String × TypeId) := []
deriving DecidableEq, Repr, Inhabited

namespace Registry

/-- The type registered under a name. -/
def get? (r : Registry) (name : String) : Option TypeId := r.entries.lookup name

def contains (r : Registry) (name : String) : Bool := (r.get? name).isSome

/-- Registers a type under its name, unless the name is taken; tells whether it did. -/
def register (r : Registry) (name : String) (t : TypeId) : Bool × Registry :=
  if r.contains name then (false, r) else (true, { entries := r.entries ++ [(name, t)] })

def size (r : Registry) : Nat := r.entries.length

def isEmpty (r : Registry) : Bool := r.entries.isEmpty

/-- The registered names in ascending order. -/
def names (r : Registry) : List String := (r.entries.map (·.1)).mergeSort (· ≤ ·)

/-- A new instance of the type registered under a name. -/
def instantiate {Code Host : Type} (r : Registry) (beh : Behaviour Code Host) (name : String) :
    Action Code Host (Option Value) :=
  match r.get? name with
  | none => pure none
  | some t => do return some (← newInstance beh t)

end Registry

end ObjectGraph
