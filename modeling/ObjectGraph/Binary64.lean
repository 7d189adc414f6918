import ObjectGraph.Power

/-!
# Binary floating-point numbers

Floating-point values are kept as their bit patterns, in the two interchange formats of 64 and 32
bits: a sign bit, an exponent field and a fraction field. Nothing is computed with them except
comparison for equality and conversion between the formats.

- `Binary64.equal` is numeric equality: a NaN differs from itself, and the two zeros are equal;
- `Binary32.widen` is exact;
- `Binary64.narrow` rounds to the nearest value of the smaller format, a tie to the even neighbour.
-/

namespace ObjectGraph

/-- A 64-bit floating-point number, as its bits. -/
structure Binary64 where
  bits : UInt64
deriving DecidableEq, Repr, Inhabited

/-- A 32-bit floating-point number, as its bits. -/
structure Binary32 where
  bits : UInt32
deriving DecidableEq, Repr, Inhabited

namespace Binary64

def zero : Binary64 := ⟨0⟩

/-- The sign bit. -/
def isNegative (x : Binary64) : Bool := twoTo 63 ≤ x.bits.toNat

/-- The 11 bits of the exponent field. -/
def exponentField (x : Binary64) : Nat := x.bits.toNat / twoTo 52 % twoTo 11

/-- The 52 bits of the fraction field. -/
def fraction (x : Binary64) : Nat := x.bits.toNat % twoTo 52

def isNaN (x : Binary64) : Bool := x.exponentField == 2047 && x.fraction != 0

def isInfinite (x : Binary64) : Bool := x.exponentField == 2047 && x.fraction == 0

def isZero (x : Binary64) : Bool := x.exponentField == 0 && x.fraction == 0

/-- The integer `m` in the magnitude `m · 2 ^ (scale - 1074)` of a finite number. -/
def significand (x : Binary64) : Nat :=
  if x.exponentField == 0 then x.fraction else x.fraction + twoTo 52

/-- The `scale` in the magnitude `significand · 2 ^ (scale - 1074)` of a finite number. -/
def scale (x : Binary64) : Nat := x.exponentField - 1

/-- Numeric equality. -/
def equal (x y : Binary64) : Bool :=
  !x.isNaN && !y.isNaN && (x.bits == y.bits || (x.isZero && y.isZero))

end Binary64

/-- The quotient `n / 2 ^ k` rounded to the nearest integer, a tie to the even one. -/
def roundShift (n k : Nat) : Nat :=
  let quotient := n / twoTo k
  let remainder := n % twoTo k
  if 2 * remainder < twoTo k then quotient
  else if twoTo k < 2 * remainder then quotient + 1
  else if quotient % 2 = 0 then quotient
  else quotient + 1

namespace Binary32

def isNegative (x : Binary32) : Bool := twoTo 31 ≤ x.bits.toNat

/-- The 8 bits of the exponent field. -/
def exponentField (x : Binary32) : Nat := x.bits.toNat / twoTo 23 % twoTo 8

/-- The 23 bits of the fraction field. -/
def fraction (x : Binary32) : Nat := x.bits.toNat % twoTo 23

/-- The magnitude bits of the widened number. A NaN keeps its payload and becomes quiet. -/
def widenedMagnitude (x : Binary32) : Nat :=
  if x.exponentField = 255 then
    if x.fraction = 0 then 2047 * twoTo 52
    else 2047 * twoTo 52 + (twoTo 51 ||| (x.fraction * twoTo 29))
  else if x.exponentField = 0 then
    if x.fraction = 0 then 0
    else
      let top := x.fraction.log2
      (top + 874) * twoTo 52 + (x.fraction * twoTo (52 - top) - twoTo 52)
  else (x.exponentField + 896) * twoTo 52 + x.fraction * twoTo 29

/-- The same number in 64 bits. -/
def widen (x : Binary32) : Binary64 :=
  ⟨UInt64.ofNat (x.widenedMagnitude + if x.isNegative then twoTo 63 else 0)⟩

end Binary32

namespace Binary64

/-- The magnitude bits of the narrowed number. A number with its leading bit at scale `top` is
rounded to a multiple of `2 ^ (unit - 1074)`, the spacing of the smaller format at that size; too
large a result is infinite. -/
def narrowedMagnitude (x : Binary64) : Nat :=
  let infinite := 255 * twoTo 23
  if x.exponentField = 2047 then
    if x.fraction = 0 then infinite
    else infinite + (twoTo 22 ||| (x.fraction / twoTo 29))
  else if x.significand = 0 then 0
  else
    let top := x.scale + x.significand.log2
    let unit := max (top - 23) 925
    let rounded :=
      if x.scale ≤ unit then roundShift x.significand (unit - x.scale)
      else x.significand * twoTo (x.scale - unit)
    min infinite ((unit - 925) * twoTo 23 + rounded)

/-- The nearest number in 32 bits. -/
def narrow (x : Binary64) : Binary32 :=
  ⟨UInt32.ofNat (x.narrowedMagnitude + if x.isNegative then twoTo 31 else 0)⟩

end Binary64

end ObjectGraph
