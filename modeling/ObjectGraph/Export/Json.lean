import ObjectGraph.Export.Tree
import ObjectGraph.Text.Shortest

/-!
# Trees as JSON

An exported tree is written as JSON without blanks. Keys keep their order and are not merged, a
character is a string of one character, and numbers that are not finite are null.
-/

namespace ObjectGraph.Json

/-- Numbers from `0.00001` up to `10^16` are written positionally; a larger exponent has a sign,
and a tie between two shortest decimals goes to the even digit. -/
def floatFormat : FloatFormat :=
  { leastPositional := -5, greatestPositional := 15, positiveExponent := "+", tie := .toEven }

/-- A lower-case hexadecimal digit. -/
def hexDigit (d : Nat) : Char := if d < 10 then Char.ofNat (48 + d) else Char.ofNat (87 + d)

/-- A character inside a string: quotes, backslashes and control characters are escaped. -/
def escape (c : Char) : List Char :=
  if c = '"' then ['\\', '"']
  else if c = '\\' then ['\\', '\\']
  else if c = '\n' then ['\\', 'n']
  else if c = '\r' then ['\\', 'r']
  else if c = '\t' then ['\\', 't']
  else if c.toNat = 8 then ['\\', 'b']
  else if c.toNat = 12 then ['\\', 'f']
  else if c.toNat < 32 then
    ['\\', 'u', '0', '0', hexDigit (c.toNat / 16), hexDigit (c.toNat % 16)]
  else [c]

/-- A string in quotes. -/
def quote (s : String) : String := String.ofList ('"' :: s.toList.flatMap escape ++ ['"'])

/-- Texts with a comma between them. -/
def commaJoin (parts : List String) : String := ",".intercalate parts

mutual

/-- The JSON text of a tree. -/
def render : Tree → String
  | .none => "null"
  | .bool b => if b then "true" else "false"
  | .int n => Decimal.intText n.toInt
  | .float x => if x.isNaN || x.isInfinite then "null" else floatFormat.text x
  | .char c => quote c.toString
  | .str s => quote s
  | .seq items => "[" ++ commaJoin (renderItems items) ++ "]"
  | .map entries => "\x7b" ++ commaJoin (renderEntries entries) ++ "\x7d"

def renderItems : List Tree → List String
  | [] => []
  | item :: items => render item :: renderItems items

def renderEntries : List (String × Tree) → List String
  | [] => []
  | (key, value) :: entries => (quote key ++ ":" ++ render value) :: renderEntries entries

end

/-! The ends of positional notation, and a text with all sorts of parts. -/

example : floatFormat.text ⟨0x3ee4f8b588e368f1⟩ = "0.00001" := by decide +kernel

example : floatFormat.text ⟨0x3eb0c6f7a0b5ed8d⟩ = "1e-6" := by decide +kernel

example : floatFormat.text ⟨0x4341c37937e08000⟩ = "1e+16" := by decide +kernel

example : floatFormat.text ⟨0x8000000000000000⟩ = "-0.0" := by decide +kernel

example :
    render (.map [("a", .seq [.int (-3), .none, .char '"']), ("a", .bool true)]) =
      "\x7b\"a\":[-3,null,\"\\\"\"],\"a\":true\x7d" := by
  decide +kernel

end ObjectGraph.Json

namespace ObjectGraph

/-- The JSON text of a value. -/
def World.json {Code Host : Type} (w : World Code Host) (v : Value) : Except ExportError String :=
  (w.exportAt 0 v).map Json.render

end ObjectGraph
