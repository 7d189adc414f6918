/-!
# Padding

A text is first cut to a greatest number of characters, if one is given, and then filled with
spaces up to a width. Both are counted in characters.
-/

namespace ObjectGraph

inductive Alignment where
  | left
  | center
  | right
deriving DecidableEq, Repr, Inhabited

/-- How a text is fitted into a field. -/
structure Padding where
  alignment : Alignment
  width : Nat
  /-- The greatest number of characters that are kept. -/
  precision : Option Nat
deriving DecidableEq, Repr, Inhabited

/-- Fits a text into a field. Of an odd number of spaces around a centred text, the greater part
goes to the right. -/
def Padding.pad (p : Padding) (s : String) : String :=
  let kept := match p.precision with
    | some n => s.toList.take n
    | none => s.toList
  let fill := p.width - kept.length
  let left := match p.alignment with
    | .left => 0
    | .center => fill / 2
    | .right => fill
  String.ofList (List.replicate left ' ' ++ kept ++ List.replicate (fill - left) ' ')

example : (Padding.mk .center 6 (some 3)).pad "abcd" = " abc  " := by decide +kernel

example : (Padding.mk .right 3 none).pad "abcd" = "abcd" := by decide +kernel

end ObjectGraph
