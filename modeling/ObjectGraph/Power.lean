/-!
# Powers of two and ten

The powers of the two bases that number formats count in.
-/

namespace ObjectGraph

/-- The `n`-th power of two. -/
def twoTo (n : Nat) : Nat := Nat.pow 2 n

/-- The `n`-th power of ten. -/
def tenTo (n : Nat) : Nat := Nat.pow 10 n

end ObjectGraph
