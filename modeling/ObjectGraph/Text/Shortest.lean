import ObjectGraph.Binary64
import ObjectGraph.Text.Decimal

/-!
# Shortest decimal text of floating-point numbers

A finite number is written with the fewest significant digits that read back as the same number,
and among those with the digits nearest to it. All arithmetic is exact, on natural numbers: a
positive number is `significand · 2 ^ (scale - 1074)`, and the reals that round to it reach half
way to its two neighbours (ends included when the significand is even).

The choices that differ from one output format to another are fields of `FloatFormat`.
-/

namespace ObjectGraph

/-- What to do with a number exactly half way between two decimals of the same length. -/
inductive TieRule where
  | toEven
  | up
deriving DecidableEq, Repr

/-- The choices of a format for finite numbers. -/
structure FloatFormat where
  /-- The least decimal exponent that is written positionally. -/
  leastPositional : Int
  /-- The greatest decimal exponent that is written positionally. -/
  greatestPositional : Int
  /-- The sign in front of a positive exponent. -/
  positiveExponent : String
  tie : TieRule
deriving Repr

namespace Shortest

/-- The interval of reals that round to a positive number, as multiples of `step / parts`: the
number itself is `middle`, and the ends belong to it if `closed`. -/
structure Interval where
  low : Nat
  middle : Nat
  high : Nat
  closed : Bool
  /-- The power of two in the numerator of the unit. -/
  numerator : Nat
  /-- The power of two in the denominator of the unit. -/
  denominator : Nat
deriving Repr

/-- The reals that round to a positive number. Below a power of two the spacing is half as
large. -/
def Interval.of (x : Binary64) : Interval :=
  let m := x.significand
  let narrow := x.fraction == 0 && 1 < x.exponentField
  { low := if narrow then 4 * m - 1 else 4 * m - 2
    middle := 4 * m
    high := 4 * m + 2
    closed := m % 2 == 0
    numerator := twoTo (x.scale - 1076)
    denominator := twoTo (1076 - x.scale) }

/-- A decimal `coefficient · 10 ^ exponent`. -/
structure Decimal where
  coefficient : Nat
  exponent : Int
deriving DecidableEq, Repr

/-- Compares a bound of the interval with a decimal. -/
def Interval.compareBound (i : Interval) (bound : Nat) (d : Decimal) : Ordering :=
  compare (bound * i.numerator * tenTo (-d.exponent).toNat)
    (d.coefficient * i.denominator * tenTo d.exponent.toNat)

/-- A decimal that reads back as the number. -/
def Interval.contains (i : Interval) (d : Decimal) : Bool :=
  match i.compareBound i.low d, i.compareBound i.high d with
  | .lt, .gt => true
  | .eq, _ => i.closed
  | _, .eq => i.closed
  | _, _ => false

/-- The position of the most significant decimal digit of the number. -/
def Interval.leadingExponent (i : Interval) : Int :=
  let num := i.middle * i.numerator
  let den := i.denominator
  if den ≤ num then ((ObjectGraph.Decimal.digits (num / den)).length : Int) - 1
  else
    let ratio := (den + num - 1) / num
    if ratio ≤ 1 then 0 else -((ObjectGraph.Decimal.digits (ratio - 1)).length : Int)

/-- Of the two multiples of `10 ^ exponent` around the number, the nearest that reads back. -/
def Interval.onGrid (i : Interval) (tie : TieRule) (exponent : Int) : Option Decimal :=
  let num := i.middle * i.numerator * tenTo (-exponent).toNat
  let den := i.denominator * tenTo exponent.toNat
  let below : Decimal := { coefficient := num / den, exponent }
  let above : Decimal := { coefficient := num / den + 1, exponent }
  let fraction := 2 * (num % den)
  let preferAbove :=
    if fraction < den then false
    else if den < fraction then true
    else match tie with
      | .up => true
      | .toEven => below.coefficient % 2 == 1
  match i.contains below && below.coefficient != 0, i.contains above with
  | true, true => some (if preferAbove then above else below)
  | true, false => some below
  | false, true => some above
  | false, false => none

/-- The first hit on the grids of `fuel` more digits. -/
def Interval.search (i : Interval) (tie : TieRule) (exponent : Int) : Nat → Decimal
  | 0 => { coefficient := i.middle * i.numerator / i.denominator, exponent := 0 }
  | fuel + 1 =>
    match i.onGrid tie exponent with
    | some d => d
    | none => i.search tie (exponent - 1) fuel

/-- The shortest decimal of a positive finite number; seventeen digits always suffice. -/
def decimal (x : Binary64) (tie : TieRule) : Decimal :=
  let i := Interval.of x
  i.search tie i.leadingExponent 17

/-- The digits without trailing zeros. -/
def trimZeros (cs : List Char) : List Char := (cs.reverse.dropWhile (· == '0')).reverse

/-- The text of a positive finite number. -/
def positiveText (format : FloatFormat) (x : Binary64) : List Char :=
  let d := decimal x format.tie
  let all := ObjectGraph.Decimal.digits d.coefficient
  let exponent := d.exponent + all.length - 1
  let digits := trimZeros all
  if format.leastPositional ≤ exponent ∧ exponent ≤ format.greatestPositional then
    if exponent < 0 then
      '0' :: '.' :: List.replicate (-exponent - 1).toNat '0' ++ digits
    else
      let whole := exponent.toNat + 1
      let places := digits.drop whole
      digits.take whole ++ List.replicate (whole - digits.length) '0' ++
        '.' :: (if places.isEmpty then ['0'] else places)
  else
    let mantissa := match digits with
      | [] => []
      | [first] => [first]
      | first :: more => first :: '.' :: more
    let sign := if exponent < 0 then "-" else format.positiveExponent
    mantissa ++ 'e' :: sign.toList ++ ObjectGraph.Decimal.digits exponent.natAbs

end Shortest

/-- The text of a finite number. Zero keeps its sign. -/
def FloatFormat.text (format : FloatFormat) (x : Binary64) : String :=
  let magnitude := if x.isZero then "0.0".toList else Shortest.positiveText format x
  String.ofList (if x.isNegative then '-' :: magnitude else magnitude)

end ObjectGraph
