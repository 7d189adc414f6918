import ObjectGraph.Power

/-!
# Counting in 64 bits

Offsets, lengths and positions are natural numbers here. A machine counts them in words of 64 bits,
and must not go on with a sum that does not fit, nor cut a text where there is no character
boundary. `Trap` is what such a machine reports instead; `addChecked` is its addition.
-/

namespace ObjectGraph

/-- Why a careful machine stops. -/
inductive Trap where
  /-- A sum does not fit in 64 bits. -/
  | overflow
  /-- A text is to be cut outside of it, or inside a character. -/
  | noBoundary
deriving DecidableEq, Repr, Inhabited

@[simp] theorem Trap.ok_bind {α β : Type} (a : α) (f : α → Except Trap β) :
    (Except.ok a >>= f) = f a := rfl

/-- Adds two numbers if the sum fits in 64 bits. -/
def addChecked (a b : Nat) : Except Trap Nat :=
  if a + b < UInt64.size then .ok (a + b) else .error .overflow

/-- A sum below some other number of 64 bits fits. -/
theorem addChecked_of_le {a b n : Nat} (within : a + b ≤ n) (fits : n < UInt64.size) :
    addChecked a b = .ok (a + b) :=
  if_pos (Nat.lt_of_le_of_lt within fits)

end ObjectGraph
