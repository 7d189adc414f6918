/-!
# Layouts of nested records

The diagnostic text of nested data, in two styles: on one line, or with one part per line and
nested parts indented by four spaces.
-/

namespace ObjectGraph

/-- Nested data that is to be printed. -/
inductive Layout where
  | text (s : String)
  /-- A name with named fields. An `isOpen` record says that it has fields which are not shown. -/
  | record (name : String) (fields : List (String × Layout)) (isOpen : Bool)
  /-- A name with unnamed parts. -/
  | tuple (name : String) (parts : List Layout)
  | list (items : List Layout)
deriving Repr, Inhabited

namespace Layout

def leftBrace : String := "\x7b"

def rightBrace : String := "\x7d"

/-- Puts four spaces in front of every line. -/
def indentChars : Bool → List Char → List Char
  | _, [] => []
  | atStart, c :: cs =>
    let rest := c :: indentChars (c == '\n') cs
    if atStart then ' ' :: ' ' :: ' ' :: ' ' :: rest else rest

/-- One part of a broken layout: indented, with a comma, on lines of its own. -/
def line (s : String) : String := String.ofList (indentChars true (s ++ ",\n").toList)

mutual

/-- The text on one line. -/
def compact : Layout → String
  | .text s => s
  | .record name fields isOpen =>
    let parts := compactFields fields ++ if isOpen then [".."] else []
    if parts.isEmpty then name
    else name ++ " " ++ leftBrace ++ " " ++ ", ".intercalate parts ++ " " ++ rightBrace
  | .tuple name parts =>
    if parts.isEmpty then name else name ++ "(" ++ ", ".intercalate (compactAll parts) ++ ")"
  | .list items => "[" ++ ", ".intercalate (compactAll items) ++ "]"

def compactAll : List Layout → List String
  | [] => []
  | part :: parts => compact part :: compactAll parts

def compactFields : List (String × Layout) → List String
  | [] => []
  | (name, part) :: fields => (name ++ ": " ++ compact part) :: compactFields fields

end

mutual

/-- The text with each part on a line of its own. -/
def broken : Layout → String
  | .text s => s
  | .record name fields isOpen =>
    let parts := String.join (brokenFields fields)
    if isOpen then
      if fields.isEmpty then name ++ " " ++ leftBrace ++ " .. " ++ rightBrace
      else name ++ " " ++ leftBrace ++ "\n" ++ parts ++ "    ..\n" ++ rightBrace
    else if fields.isEmpty then name
    else name ++ " " ++ leftBrace ++ "\n" ++ parts ++ rightBrace
  | .tuple name parts =>
    if parts.isEmpty then name else name ++ "(\n" ++ String.join (brokenAll parts) ++ ")"
  | .list items => if items.isEmpty then "[]" else "[\n" ++ String.join (brokenAll items) ++ "]"

def brokenAll : List Layout → List String
  | [] => []
  | part :: parts => line (broken part) :: brokenAll parts

def brokenFields : List (String × Layout) → List String
  | [] => []
  | (name, part) :: fields => line (name ++ ": " ++ broken part) :: brokenFields fields

end

/-- The text in the chosen style. -/
def render (isBroken : Bool) (l : Layout) : String := if isBroken then l.broken else l.compact

example :
    (record "P" [("x", .text "1"), ("y", .tuple "Q" [.text "2"])] false).broken =
      "P \x7b\n    x: 1,\n    y: Q(\n        2,\n    ),\n\x7d" := by
  decide +kernel

end Layout

end ObjectGraph
