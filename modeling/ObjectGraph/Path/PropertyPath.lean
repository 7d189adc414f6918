import ObjectGraph.Path.Segment

/-!
# Property paths

A property path is a path kept as its list of tokens. `PropertyPath.parse` reads one from text,
`PropertyPath.text` writes it. The two are inverse to each other as long as no member name
contains a separator, ends the path empty, or joins with its neighbour into an index segment.
-/

namespace ObjectGraph

/-- A path that has been read in full. The empty path addresses the root itself. -/
structure PropertyPath where
  tokens : List Token := []
deriving DecidableEq, Repr, Inhabited

namespace PropertyPath

/-- The empty path. -/
def empty : PropertyPath := {}

/-- Appends a step. -/
def push (p : PropertyPath) (token : Token) : PropertyPath := { tokens := p.tokens ++ [token] }

/-- Appends the name of a member. -/
def member (p : PropertyPath) (name : String) : PropertyPath := p.push (.member name)

/-- Appends the position of an element. -/
def element (p : PropertyPath) (index : UInt64) : PropertyPath := p.push (.element index)

/-- The last step. -/
def last? (p : PropertyPath) : Option Token := p.tokens.getLast?

/-- The path without its last step; the empty path has no parent. -/
def parent? (p : PropertyPath) : Option PropertyPath :=
  if p.tokens.isEmpty then none else some { tokens := p.tokens.dropLast }

/-- Removes the last step, if there is one, and returns it. -/
def pop (p : PropertyPath) : Option Token × PropertyPath :=
  (p.last?, { tokens := p.tokens.dropLast })

/-- The number of steps. -/
def length (p : PropertyPath) : Nat := p.tokens.length

def isEmpty (p : PropertyPath) : Bool := p.tokens.isEmpty

/-- Reads every segment of a path; the first malformed one is an error. -/
def parse (path : String) : Except ParseError PropertyPath :=
  let scan := scanPath path
  match scan.error with
  | some e => .error e
  | none => .ok { tokens := scan.tokens.map (·.token) }

/-- The segments of some tokens, separated by `.`. -/
def joinSegments : List Token → List Char
  | [] => []
  | [token] => token.chars
  | token :: next :: tokens => token.chars ++ '.' :: joinSegments (next :: tokens)

/-- The text of a path. -/
def text (p : PropertyPath) : String := String.ofList (joinSegments p.tokens)

/-- The lexicographic order of the steps; a path comes after its own beginnings. -/
def compareTokens : List Token → List Token → Ordering
  | [], [] => .eq
  | [], _ :: _ => .lt
  | _ :: _, [] => .gt
  | a :: as, b :: bs => (a.compare b).then (compareTokens as bs)

def compare (p q : PropertyPath) : Ordering := compareTokens p.tokens q.tokens

/-! Reading drops a trailing separator and the leading zeros of an index. A bracket that closes an
index too late is a fault of the index. -/

example : (parse "a.Array.data[07].").toOption = some ((empty.member "a").element 7) := by
  decide +kernel

example : ((empty.member "a").element 7).text = "a.Array.data[7]" := by decide +kernel

example :
    (scanPath "Array.data[1.b]").error =
      some { offset := 11, path := "Array.data[1.b]", fault := .notDecimal } := by
  decide +kernel

end PropertyPath

end ObjectGraph
