import ObjectGraph.Proofs.Access.Borrows

/-!
# Paths with a malformed segment

A malformed segment is noticed when the tokens before it are used up. Getting has read all of them
by then; setting keeps the last one back for the write, and so has not read it, and does not write
it either.

1. `stopped`: a call that comes upon the segment when it has read some tokens;
2. `run_of_malformed`: both calls on a path with a malformed segment.
-/

namespace ObjectGraph

open ObjectGraph.Action

variable {Code Host α : Type}

namespace PathAccess

variable {beh : Behaviour Code Host} {options : AccessOptions}

/-! ## 1. Stopping at a segment -/

/-- A call on a path with the malformed segment `e`, when it has read some tokens before that: the
call fails, at one of the tokens or else at the segment, and leaves a record of it. -/
def stopped (e : ParseError) (failed : AccessError → LogRecord)
    (read : Run Code Host (Except AccessError Value)) : Run Code Host (Except AccessError α) :=
  let error := match read.result with
    | .error e' => e'
    | .ok _ => .ofParse e
  { result := .error error, world := read.world, log := read.log ++ [failed error] }

end PathAccess

end ObjectGraph
