import ObjectGraph.Text.Printable

/-!
# Quoted text for diagnostics

Strings and characters are printed between quotes. The quote itself, backslashes, and characters
that are not visible on their own are escaped; the latter by their code point.
-/

namespace ObjectGraph.Quoted

/-- The hexadecimal digits of a number, in lower case. -/
def hexDigits (n : Nat) : List Char := Nat.toDigits 16 n

/-- A character between two `quote`s. -/
def escape (quote c : Char) : List Char :=
  if c.toNat = 0 then ['\\', '0']
  else if c = '\t' then ['\\', 't']
  else if c = '\r' then ['\\', 'r']
  else if c = '\n' then ['\\', 'n']
  else if c = '\\' || c = quote then ['\\', c]
  else if Printable.isPrintable c then [c]
  else '\\' :: 'u' :: '\x7b' :: hexDigits c.toNat ++ ['\x7d']

/-- A string in double quotes. -/
def string (s : String) : String := String.ofList ('"' :: s.toList.flatMap (escape '"') ++ ['"'])

/-- A character in single quotes. -/
def char (c : Char) : String := String.ofList ('\'' :: escape '\'' c ++ ['\''])

example : string "a\"\n" = "\"a\\\"\\n\"" := by decide +kernel

example : char '\u0301' = "'\\u\x7b301\x7d'" := by decide +kernel

end ObjectGraph.Quoted
