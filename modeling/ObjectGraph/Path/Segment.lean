import ObjectGraph.Path.Token
import ObjectGraph.Text.Utf8

/-!
# Reading path segments

A path is read from left to right, one segment at a time. A segment that begins with
`Array.data[` is an index segment and must be complete: digits, a closing bracket, and then a `.`
or the end of the path. Any other segment is a member name, which runs to the next `.` or to the
end; it may be empty.

- `readSegment` reads the segment at the front of a text;
- `nextToken` reads the segment at a given offset of a path;
- `TokenStream` hands out the tokens of a path one by one, and nothing more after a fault;
- `TokenStream.scan` runs a stream to its end.
-/

namespace ObjectGraph

/-- A segment read from the front of a text. -/
structure Segment where
  token : Token
  /-- The bytes that the segment takes, with the separator after it if there is one. -/
  size : Nat
  /-- The text that follows. -/
  rest : List Char
deriving DecidableEq, Repr, Inhabited

/-- The text behind `opening`, if `cs` begins with it. -/
def afterOpening : List Char → List Char → Option (List Char)
  | [], cs => some cs
  | _ :: _, [] => none
  | o :: opening, c :: cs => if o = c then afterOpening opening cs else none

/-- The part of a text before the first `stop`. -/
def before (stop : Char) (cs : List Char) : List Char := cs.takeWhile (· != stop)

/-- The part of a text from the first `stop` on; empty if there is none. -/
def onwards (stop : Char) (cs : List Char) : List Char := cs.dropWhile (· != stop)

/-- Reads an index segment whose opening has been read, from the text behind the opening. The
offset of a fault is relative to the start of the segment. -/
def readIndex (cs : List Char) : Except (IndexFault × Nat) Segment :=
  let start := Utf8.byteSize Token.indexOpening
  match onwards ']' cs with
  | [] => .error (.unclosed, 0)
  | _ :: tail =>
    let digits := before ']' cs
    if digits.isEmpty then .error (.empty, start)
    else if !digits.all Decimal.isDigit then .error (.notDecimal, start)
    else if Decimal.value digits < UInt64.size then
      let token := Token.element (UInt64.ofNat (Decimal.value digits))
      let close := start + Utf8.byteSize digits + 1
      match tail with
      | [] => .ok { token, size := close, rest := [] }
      | c :: rest =>
        if c = '.' then .ok { token, size := close + 1, rest }
        else .error (.unseparated, close)
    else .error (.tooLarge, start)

/-- Reads a member name: everything up to the next separator. -/
def readName (cs : List Char) : Segment :=
  let name := before '.' cs
  let token := Token.member (String.ofList name)
  match onwards '.' cs with
  | [] => { token, size := Utf8.byteSize name, rest := [] }
  | _ :: rest => { token, size := Utf8.byteSize name + 1, rest }

/-- Reads the segment at the front of a text; nothing is left to read at its end. -/
def readSegment (cs : List Char) : Option (Except (IndexFault × Nat) Segment) :=
  if cs.isEmpty then none
  else match afterOpening Token.indexOpening cs with
    | some after => some (readIndex after)
    | none => some (.ok (readName cs))

/-- Reads the segment that starts at an offset of a path: the token and the offset of the next
segment. Nothing is read at or past the end of the path, nor inside a character. -/
def nextToken (path : String) (cursor : Nat) : Option (Except ParseError (Token × Nat)) :=
  match Utf8.dropBytes path.toList cursor with
  | none => none
  | some rest =>
    match readSegment rest with
    | none => none
    | some (.ok segment) => some (.ok (segment.token, cursor + segment.size))
    | some (.error (fault, offset)) => some (.error { offset := cursor + offset, path, fault })

/-! ## Every segment takes at least one character -/

theorem length_afterOpening {opening cs after : List Char}
    (found : afterOpening opening cs = some after) : after.length ≤ cs.length := by
  induction opening generalizing cs with
  | nil => simp only [afterOpening, Option.some.injEq] at found; simp [found]
  | cons o opening ih =>
    cases cs with
    | nil => simp [afterOpening] at found
    | cons c cs =>
      simp only [afterOpening] at found
      split at found
      · exact Nat.le_succ_of_le (ih found)
      · cases found

theorem length_onwards (stop : Char) (cs : List Char) :
    (onwards stop cs).length ≤ cs.length :=
  (List.dropWhile_suffix _).length_le

theorem length_readIndex {cs : List Char} {segment : Segment}
    (read : readIndex cs = .ok segment) : segment.rest.length < cs.length := by
  have bound := length_onwards ']' cs
  revert read
  simp only [readIndex]
  split
  · intro read; cases read
  · next close tail found =>
    rw [found, List.length_cons] at bound
    intro read
    split at read
    · cases read
    split at read
    · cases read
    split at read
    · split at read
      · cases read; simp only [List.length_nil]; omega
      · simp only [List.length_cons] at bound
        split at read
        · cases read; simp only; omega
        · cases read
    · cases read

theorem length_readName {c : Char} {cs : List Char} :
    (readName (c :: cs)).rest.length < (c :: cs).length := by
  have bound := length_onwards '.' (c :: cs)
  simp only [readName]
  split
  · simp
  · next stop rest found =>
    rw [found, List.length_cons] at bound
    exact bound

/-- Reading a segment shortens the text, so reading on comes to an end. -/
theorem length_readSegment {cs : List Char} {segment : Segment}
    (read : readSegment cs = some (.ok segment)) : segment.rest.length < cs.length := by
  cases cs with
  | nil => simp [readSegment] at read
  | cons c cs =>
    simp only [readSegment, List.isEmpty_cons, Bool.false_eq_true, if_false] at read
    split at read
    · next after found =>
      simp only [Option.some.injEq] at read
      exact Nat.lt_of_lt_of_le (length_readIndex read) (length_afterOpening found)
    · simp only [Option.some.injEq, Except.ok.injEq] at read
      subst read
      exact length_readName

/-! ## Token streams -/

/-- A path that is being read, at a segment boundary. -/
structure TokenStream where
  /-- The whole path, for error messages. -/
  path : String
  /-- What has not been read yet. -/
  rest : List Char
  /-- The offset of `rest` in the path. -/
  offset : Nat
deriving DecidableEq, Repr, Inhabited

namespace TokenStream

/-- A path of which nothing has been read. -/
def ofPath (path : String) : TokenStream := { path, rest := path.toList, offset := 0 }

/-- Reads one segment. After a fault nothing is left to read. -/
def next (s : TokenStream) : Option (Except ParseError OffsetToken × TokenStream) :=
  match readSegment s.rest with
  | none => none
  | some (.ok segment) =>
    some (.ok { token := segment.token, offset := s.offset },
      { s with rest := segment.rest, offset := s.offset + segment.size })
  | some (.error (fault, offset)) =>
    some (.error { offset := s.offset + offset, path := s.path, fault },
      { s with rest := [], offset := s.path.utf8ByteSize })

theorem length_next {s s' : TokenStream} {token : OffsetToken}
    (read : s.next = some (.ok token, s')) : s'.rest.length < s.rest.length := by
  simp only [next] at read
  split at read
  · cases read
  · next segment found =>
    simp only [Option.some.injEq, Prod.mk.injEq] at read
    rw [← read.2]
    exact length_readSegment found
  · simp at read

end TokenStream

/-- All that a token stream hands out: the tokens before the end or before the first fault, that
fault, and the stream after it. -/
structure Scan where
  tokens : List OffsetToken
  error : Option ParseError
  leftover : TokenStream
deriving DecidableEq, Repr, Inhabited

namespace TokenStream

/-- Runs a stream until it hands out a fault or nothing more. -/
def scan (s : TokenStream) : Scan :=
  match _read : s.next with
  | none => { tokens := [], error := none, leftover := s }
  | some (.error e, s') => { tokens := [], error := some e, leftover := s' }
  | some (.ok token, s') =>
    let later := s'.scan
    { later with tokens := token :: later.tokens }
termination_by s.rest.length
decreasing_by exact length_next _read

end TokenStream

/-- The tokens of a path, up to its end or its first malformed segment. -/
def scanPath (path : String) : Scan := (TokenStream.ofPath path).scan

end ObjectGraph
