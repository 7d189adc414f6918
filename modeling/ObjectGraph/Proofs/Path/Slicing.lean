import Mathlib.Data.String.Basic
import ObjectGraph.Proofs.Path.Grammar
import ObjectGraph.Proofs.Word

/-!
# Reading at any offset

A segment can be read at any offset of a path. Reading handles the text behind the offset as a
list of characters, but it can be done with offsets alone: the path is cut where an offset says, and
a cut outside the path or inside a character would be a fault of the reader. No path and no offset
lead to such a cut, and no sum of offsets leaves the range of 64 bits.

1. `IsBoundary`: the offsets at which a path can be cut;
2. `Sliced.nextToken`: reading by offsets, which stops at a bad cut and at an overflow;
3. `Sliced.nextToken_eq`: it never stops, and reads what `nextToken` reads;
4. `nextToken_none_iff`, `nextToken_ok`, `nextToken_error`, `nextToken_moved`: when there is nothing
   to read, where the offsets in an answer lie, and why only the text behind the offset matters;
5. `Repeats`: reading on and on comes to an end; `nextToken_safe`: the whole.
-/

namespace ObjectGraph

/-! ## 1. Boundaries -/

/-- A character starts at the offset, or the path ends there. -/
def IsBoundary (path : String) (offset : Nat) : Prop := String.Pos.Raw.IsValid path ⟨offset⟩

theorem Utf8.byteSize_eq_utf8Len (cs : List Char) : Utf8.byteSize cs = String.utf8Len cs := by
  induction cs with
  | nil => rfl
  | cons c cs ih => rw [byteSize_cons, String.utf8Len_cons, ih, Nat.add_comm]

theorem Utf8.byteSize_toList (path : String) :
    Utf8.byteSize path.toList = path.utf8ByteSize := by
  rw [byteSize_eq_utf8Len, String.utf8Len_toList]

/-- A boundary is where the path falls into two paths. -/
theorem isBoundary_iff {path : String} {offset : Nat} :
    IsBoundary path offset ↔
      ∃ front back : List Char, path.toList = front ++ back ∧ offset = Utf8.byteSize front := by
  rw [IsBoundary, String.Pos.Raw.isValid_iff_exists_append]
  constructor
  · rintro ⟨front, back, rfl, same⟩
    refine ⟨front.toList, back.toList, String.toList_append, ?_⟩
    rw [Utf8.byteSize_toList]
    exact congrArg String.Pos.Raw.byteIdx same
  · rintro ⟨front, back, whole, rfl⟩
    refine ⟨String.ofList front, String.ofList back, ?_, ?_⟩
    · rw [← String.ofList_append, ← whole, String.ofList_toList]
    · rw [Utf8.byteSize_eq_utf8Len, String.rawEndPos_ofList]

/-- The text behind an offset is there if and only if the offset is a boundary. -/
theorem isBoundary_iff_dropBytes {path : String} {offset : Nat} :
    IsBoundary path offset ↔ (Utf8.dropBytes path.toList offset).isSome := by
  rw [isBoundary_iff, Option.isSome_iff_exists]
  constructor
  · rintro ⟨front, back, whole, rfl⟩
    exact ⟨back, by rw [whole, Utf8.dropBytes_append]⟩
  · rintro ⟨back, found⟩
    obtain ⟨front, whole, size⟩ := Utf8.dropBytes_eq_some_iff.1 found
    exact ⟨front, back, whole, size⟩

/-! ## 2. Reading by offsets -/

namespace Sliced

/-- The text from an offset on. -/
def sliceFrom (cs : List Char) (n : Nat) : Except Trap (List Char) :=
  match Utf8.dropBytes cs n with
  | some rest => .ok rest
  | none => .error .noBoundary

/-- The text up to an offset. -/
def sliceTo : List Char → Nat → Except Trap (List Char)
  | _, 0 => .ok []
  | [], _ + 1 => .error .noBoundary
  | c :: cs, n + 1 =>
    if c.utf8Size ≤ n + 1 then (sliceTo cs (n + 1 - c.utf8Size)).map (c :: ·)
    else .error .noBoundary

/-- The offset of the first `stop` in a text. -/
def find? (stop : Char) : List Char → Option Nat
  | [] => none
  | c :: cs => if c = stop then some 0 else (find? stop cs).map (c.utf8Size + ·)

/-- The number that a text denotes, if the text is a row of digits and the number fits in 64
bits. -/
def parseIndex (digits : List Char) : Except IndexFault UInt64 :=
  if digits.isEmpty then .error .empty
  else if !digits.all Decimal.isDigit then .error .notDecimal
  else if Decimal.value digits < UInt64.size then .ok (UInt64.ofNat (Decimal.value digits))
  else .error .tooLarge

/-- Reads the index segment that starts at `cursor`, from the text behind its opening: the token and
the offset of the next segment, or a fault and the offset at which it is reported. -/
def readIndex (path : List Char) (cursor : Nat) (after : List Char) :
    Except Trap (Except (IndexFault × Nat) (Token × Nat)) := do
  let start ← addChecked cursor (Utf8.byteSize Token.indexOpening)
  match find? ']' after with
  | none => return .error (.unclosed, cursor)
  | some close =>
    match parseIndex (← sliceTo after close) with
    | .error fault => return .error (fault, start)
    | .ok index =>
      let stop ← addChecked (← addChecked start close) (Utf8.byteSize [']'])
      match ← sliceFrom path stop with
      | [] => return .ok (.element index, stop)
      | c :: _ =>
        if c = '.' then return .ok (.element index, ← addChecked stop (Utf8.byteSize ['.']))
        else return .error (.unseparated, stop)

/-- Reads the name at `cursor`, where the text `rest` starts. -/
def readName (path : List Char) (cursor : Nat) (rest : List Char) :
    Except Trap (Token × Nat) := do
  let size := Utf8.byteSize rest
  let stop := (find? '.' rest).getD size
  let name ← sliceTo rest stop
  let next ←
    if stop < size then addChecked (← addChecked cursor stop) (Utf8.byteSize ['.'])
    else pure (Utf8.byteSize path)
  return (.member (String.ofList name), next)

/-- Reads the segment that starts at an offset of a path. Only this first cut may fail: then there
is nothing to read. -/
def nextToken (path : String) (cursor : Nat) :
    Except Trap (Option (Except ParseError (Token × Nat))) :=
  match Utf8.dropBytes path.toList cursor with
  | none => return none
  | some rest =>
    if rest.isEmpty then return none
    else match afterOpening Token.indexOpening rest with
      | some after => do
        match ← readIndex path.toList cursor after with
        | .ok read => return some (.ok read)
        | .error (fault, offset) => return some (.error { offset, path, fault })
      | none => do return some (.ok (← readName path.toList cursor rest))

/-! ## 3. No cut fails -/

@[simp] theorem sliceFrom_append (front back : List Char) :
    sliceFrom (front ++ back) (Utf8.byteSize front) = .ok back := by
  rw [sliceFrom, Utf8.dropBytes_append]

@[simp] theorem sliceTo_append (front back : List Char) :
    sliceTo (front ++ back) (Utf8.byteSize front) = .ok front := by
  induction front with
  | nil => cases back <;> rfl
  | cons c front ih =>
    obtain ⟨n, size⟩ : ∃ n, c.utf8Size = n + 1 :=
      Nat.exists_eq_succ_of_ne_zero (Nat.ne_of_gt c.utf8Size_pos)
    have total : Utf8.byteSize (c :: front) = (n + Utf8.byteSize front) + 1 := by
      rw [Utf8.byteSize_cons]
      omega
    have left : n + Utf8.byteSize front + 1 - c.utf8Size = Utf8.byteSize front := by omega
    rw [total, List.cons_append, sliceTo, if_pos (by omega), left, ih]
    rfl

/-- The first `stop` is found where the text before it ends. -/
theorem find?_eq (stop : Char) (cs : List Char) :
    find? stop cs =
      if onwards stop cs = [] then none else some (Utf8.byteSize (before stop cs)) := by
  induction cs with
  | nil => rfl
  | cons c cs ih =>
    by_cases here : c = stop
    · simp [find?, before, onwards, here]
    · have shorter : before stop (c :: cs) = c :: before stop cs ∧
          onwards stop (c :: cs) = onwards stop cs := by
        simp [before, onwards, here]
      rw [find?, if_neg here, ih, shorter.1, shorter.2]
      split <;> rfl

/-- What stands before the first `stop` can be cut off. -/
theorem sliceTo_before (stop : Char) (cs : List Char) :
    sliceTo cs (Utf8.byteSize (before stop cs)) = .ok (before stop cs) := by
  have cut := sliceTo_append (before stop cs) (onwards stop cs)
  rwa [before_append_onwards] at cut

/-- The answer of `ObjectGraph.readIndex`, with the offsets that it means. -/
def located (cursor : Nat) :
    Except (IndexFault × Nat) Segment → Except (IndexFault × Nat) (Token × Nat)
  | .ok segment => .ok (segment.token, cursor + segment.size)
  | .error (fault, offset) => .error (fault, cursor + offset)

/-- An index segment that is closed is read by what stands between the brackets and behind them. -/
theorem readIndex_of_close {after tail : List Char} (found : onwards ']' after = ']' :: tail) :
    ObjectGraph.readIndex after =
      let start := Utf8.byteSize Token.indexOpening
      let stop := start + Utf8.byteSize (before ']' after) + 1
      match parseIndex (before ']' after), tail with
      | .error fault, _ => .error (fault, start)
      | .ok index, [] => .ok { token := .element index, size := stop, rest := [] }
      | .ok index, c :: rest =>
        if c = '.' then .ok { token := .element index, size := stop + 1, rest }
        else .error (.unseparated, stop) := by
  simp only [ObjectGraph.readIndex, found, parseIndex]
  split
  · rfl
  split
  · rfl
  split
  · cases tail <;> rfl
  · rfl

section

variable {path front : List Char} (fits : Utf8.byteSize path < UInt64.size)
include fits

/-- In an index segment each cut is at a boundary and each offset lies in the path, also those of
the faults. -/
theorem readIndex_eq {after : List Char} (whole : path = front ++ (Token.indexOpening ++ after)) :
    readIndex path (Utf8.byteSize front) after =
      .ok (located (Utf8.byteSize front) (ObjectGraph.readIndex after)) := by
  have closing : Utf8.byteSize [']'] = 1 ∧ Utf8.byteSize ['.'] = 1 := by decide
  have opened : addChecked (Utf8.byteSize front) (Utf8.byteSize Token.indexOpening) =
      .ok (Utf8.byteSize front + Utf8.byteSize Token.indexOpening) := by
    refine addChecked_of_le ?_ fits
    simp only [whole, Utf8.byteSize_append]
    omega
  rw [readIndex, opened, Trap.ok_bind, find?_eq]
  rcases found : onwards ']' after with _ | ⟨c, tail⟩
  · rw [ObjectGraph.readIndex, found]
    rfl
  obtain rfl := onwards_head found
  have parts := before_append_onwards ']' after
  rw [found] at parts
  rw [if_neg (List.cons_ne_nil _ _), readIndex_of_close found]
  simp only [sliceTo_before, Trap.ok_bind]
  rcases parseIndex (before ']' after) with fault | index
  · rfl
  -- The bracket is a character of the path, so the path can be cut behind it.
  have text : path = front ++ Token.indexOpening ++ before ']' after ++ [']'] ++ tail := by
    rw [whole]
    simp [parts]
  have size := congrArg Utf8.byteSize text
  have behind := sliceFrom_append (front ++ Token.indexOpening ++ before ']' after ++ [']']) tail
  rw [← text] at behind
  simp only [Utf8.byteSize_append, closing] at size behind
  simp only [closing]
  rw [addChecked_of_le (n := Utf8.byteSize path) (by omega) fits, Trap.ok_bind,
    addChecked_of_le (n := Utf8.byteSize path) (by omega) fits, Trap.ok_bind, behind, Trap.ok_bind]
  rcases tail with _ | ⟨d, rest⟩
  · simp only [located, Nat.add_assoc]
    rfl
  simp only
  split
  · have positive := d.utf8Size_pos
    rw [Utf8.byteSize_cons] at size
    rw [addChecked_of_le (n := Utf8.byteSize path) (by omega) fits, Trap.ok_bind]
    simp only [located, Nat.add_assoc]
    rfl
  · simp only [located, Nat.add_assoc]
    rfl

theorem readName_eq {rest : List Char} (whole : path = front ++ rest) :
    readName path (Utf8.byteSize front) rest =
      .ok ((ObjectGraph.readName rest).token,
        Utf8.byteSize front + (ObjectGraph.readName rest).size) := by
  have sizes := congrArg Utf8.byteSize (before_append_onwards '.' rest)
  have total := congrArg Utf8.byteSize whole
  rw [Utf8.byteSize_append] at sizes total
  have cut := sliceTo_before '.' rest
  rcases found : onwards '.' rest with _ | ⟨c, tail⟩
  · rw [found, Utf8.byteSize_nil, Nat.add_zero] at sizes
    rw [sizes] at cut
    simp [readName, ObjectGraph.readName, find?_eq, found, cut, sizes, total]
  · obtain rfl := onwards_head found
    have dot : ('.').utf8Size = 1 ∧ Utf8.byteSize ['.'] = 1 := by decide
    rw [found, Utf8.byteSize_cons, dot.1] at sizes
    have shorter : Utf8.byteSize (before '.' rest) < Utf8.byteSize rest := by omega
    simp only [readName, find?_eq, found, List.cons_ne_nil, if_false, Option.getD_some, cut,
      Trap.ok_bind, shorter, if_true, dot.2]
    rw [addChecked_of_le (n := Utf8.byteSize path) (by omega) fits, Trap.ok_bind,
      addChecked_of_le (n := Utf8.byteSize path) (by omega) fits]
    simp [ObjectGraph.readName, found, Nat.add_assoc]

end

/-- Reading by offsets comes to no bad cut and to no overflow, and reads the same. -/
theorem nextToken_eq {path : String} (fits : path.utf8ByteSize < UInt64.size) (cursor : Nat) :
    nextToken path cursor = .ok (ObjectGraph.nextToken path cursor) := by
  rw [← Utf8.byteSize_toList] at fits
  rw [nextToken, ObjectGraph.nextToken]
  rcases found : Utf8.dropBytes path.toList cursor with _ | rest
  · rfl
  obtain ⟨front, whole, rfl⟩ := Utf8.dropBytes_eq_some_iff.1 found
  simp only [readSegment]
  split
  · rfl
  rcases opened : afterOpening Token.indexOpening rest with _ | after
  · simp only [readName_eq fits whole]
    rfl
  · rw [afterOpening_eq_some_iff] at opened
    rw [opened] at whole
    simp only [readIndex_eq fits whole]
    rcases ObjectGraph.readIndex after with ⟨fault, offset⟩ | segment <;> rfl

end Sliced

/-! ## 4. Answers -/

/-- Reading at a boundary is what a stream that has come there does next. -/
theorem nextToken_eq_next {path : String} {front rest : List Char}
    (whole : path.toList = front ++ rest) :
    nextToken path (Utf8.byteSize front) =
      (TokenStream.mk path rest (Utf8.byteSize front)).next.map
        fun (answer, s) => answer.map fun token => (token.token, s.offset) := by
  simp only [nextToken, whole, Utf8.dropBytes_append, TokenStream.next]
  rcases readSegment rest with _ | ⟨fault, offset⟩ | segment <;> rfl

/-- Where there is an answer, there is a boundary, and a stream that gives it. -/
theorem next_of_nextToken {path : String} {cursor : Nat} {answer : Except ParseError (Token × Nat)}
    (read : nextToken path cursor = some answer) :
    ∃ front rest answer' s, path.toList = front ++ rest ∧ cursor = Utf8.byteSize front ∧
      (TokenStream.mk path rest cursor).next = some (answer', s) ∧
      answer = answer'.map fun token => (token.token, s.offset) := by
  rcases found : Utf8.dropBytes path.toList cursor with _ | rest
  · rw [nextToken, found] at read
    cases read
  obtain ⟨front, whole, rfl⟩ := Utf8.dropBytes_eq_some_iff.1 found
  rw [nextToken_eq_next whole, Option.map_eq_some_iff] at read
  obtain ⟨⟨answer', s⟩, next, rfl⟩ := read
  exact ⟨front, rest, answer', s, whole, rfl, next, rfl⟩

theorem nextToken_none_iff {path : String} {cursor : Nat} :
    nextToken path cursor = none ↔ path.utf8ByteSize ≤ cursor ∨ ¬ IsBoundary path cursor := by
  rw [isBoundary_iff_dropBytes]
  rcases found : Utf8.dropBytes path.toList cursor with _ | rest
  · simp [nextToken, found]
  obtain ⟨front, whole, rfl⟩ := Utf8.dropBytes_eq_some_iff.1 found
  rw [← Utf8.byteSize_toList, whole, Utf8.byteSize_append, nextToken_eq_next whole,
    Option.map_eq_none_iff]
  constructor
  · intro ended
    obtain rfl : rest = [] := Grammar.rest_of_end ended
    exact .inl (Nat.le_refl _)
  · rintro (past | off)
    · cases rest with
      | nil => rfl
      | cons c rest =>
        have positive := c.utf8Size_pos
        rw [Utf8.byteSize_cons] at past
        omega
    · simp at off

/-- The next segment starts behind this one, at a boundary. -/
theorem nextToken_ok {path : String} {cursor next : Nat} {token : Token}
    (read : nextToken path cursor = some (.ok (token, next))) :
    IsBoundary path next ∧ cursor < next ∧ next ≤ path.utf8ByteSize := by
  obtain ⟨front, rest, answer, s, whole, rfl, here, same⟩ := next_of_nextToken read
  rcases answer with e | handed
  · cases same
  obtain ⟨segment, found, rfl, rfl⟩ := TokenStream.segment_of_next here
  obtain ⟨rfl, rfl⟩ := Prod.mk.inj (Except.ok.inj same)
  obtain ⟨taken, filled, rfl, size, -⟩ := readSegment_local found
  obtain ⟨c, cs, rfl⟩ := List.exists_cons_of_ne_nil filled
  have positive := c.utf8Size_pos
  simp only [size]
  refine ⟨isBoundary_iff.2 ⟨front ++ c :: cs, segment.rest, ?_, ?_⟩, ?_, ?_⟩
  · rw [whole, List.append_assoc]
  · rw [Utf8.byteSize_append]
  · rw [Utf8.byteSize_cons]
    omega
  · rw [← Utf8.byteSize_toList, whole, Utf8.byteSize_append, Utf8.byteSize_append]
    omega

/-- A fault is reported in the segment or behind it, at a boundary. -/
theorem nextToken_error {path : String} {cursor : Nat} {e : ParseError}
    (read : nextToken path cursor = some (.error e)) :
    IsBoundary path e.offset ∧ cursor ≤ e.offset ∧ e.offset ≤ path.utf8ByteSize := by
  obtain ⟨front, rest, answer, s, whole, rfl, here, same⟩ := next_of_nextToken read
  rcases answer with e' | handed
  · obtain rfl := Except.error.inj same
    obtain ⟨-, -, passed, back, rfl, offset⟩ := Grammar.read_of_fault here
    simp only [offset]
    refine ⟨isBoundary_iff.2 ⟨front ++ passed, back, ?_, ?_⟩, Nat.le_add_right .., ?_⟩
    · rw [whole, List.append_assoc]
    · rw [Utf8.byteSize_append]
    · rw [← Utf8.byteSize_toList, whole, Utf8.byteSize_append, Utf8.byteSize_append]
      omega
  · cases same

/-- An answer about a text, as an answer about a path in which the text starts at an offset. -/
def movedAnswer (offset : Nat) (path : String) :
    Except ParseError (Token × Nat) → Except ParseError (Token × Nat)
  | .ok (token, next) => .ok (token, offset + next)
  | .error e => .error (e.shifted offset path)

/-- What is read at a boundary is what is read at the start of the text behind it. -/
theorem nextToken_moved (front back : String) :
    nextToken (front ++ back) front.utf8ByteSize =
      (nextToken back 0).map (movedAnswer front.utf8ByteSize (front ++ back)) := by
  rw [← Utf8.byteSize_toList]
  simp only [nextToken, String.toList_append, Utf8.dropBytes_append, Utf8.dropBytes_zero]
  rcases readSegment back.toList with _ | ⟨fault, offset⟩ | segment
  · rfl
  · simp [movedAnswer, ParseError.shifted]
  · simp [movedAnswer]

/-! ## 5. Reading on -/

/-- `Repeats path cursor tokens last`: reading at `cursor`, then where that segment ends, and so on,
gives `tokens` and comes to `last`. -/
inductive Repeats (path : String) : Nat → List Token → Nat → Prop
  | done {cursor : Nat} : Repeats path cursor [] cursor
  | more {cursor next last : Nat} {token : Token} {tokens : List Token} :
      nextToken path cursor = some (.ok (token, next)) → Repeats path next tokens last →
      Repeats path cursor (token :: tokens) last

/-- Each token takes at least one byte. -/
theorem Repeats.length_le {path : String} {cursor last : Nat} {tokens : List Token}
    (repeats : Repeats path cursor tokens last) (inside : cursor ≤ path.utf8ByteSize) :
    cursor + tokens.length ≤ last ∧ last ≤ path.utf8ByteSize := by
  induction repeats with
  | done => exact ⟨Nat.le_refl _, inside⟩
  | more read _ ih =>
    obtain ⟨-, forwards, inside'⟩ := nextToken_ok read
    obtain ⟨taken, last_inside⟩ := ih inside'
    rw [List.length_cons]
    exact ⟨by omega, last_inside⟩

theorem Repeats.length_le_size {path : String} {cursor last : Nat} {tokens : List Token}
    (repeats : Repeats path cursor tokens last) : tokens.length ≤ path.utf8ByteSize := by
  cases repeats with
  | done => exact Nat.zero_le _
  | more read later =>
    obtain ⟨-, forwards, inside⟩ := nextToken_ok read
    have bound := later.length_le inside
    rw [List.length_cons]
    omega

/-- Reading on from any offset comes to a place where no token is to be had. -/
theorem exists_repeats (path : String) (cursor : Nat) :
    ∃ tokens last, Repeats path cursor tokens last ∧
      ∀ token next, nextToken path last ≠ some (.ok (token, next)) := by
  induction left : path.utf8ByteSize - cursor using Nat.strongRecOn generalizing cursor with
  | ind left ih =>
    rcases read : nextToken path cursor with _ | e | ⟨token, next⟩
    · exact ⟨[], cursor, .done, by simp [read]⟩
    · exact ⟨[], cursor, .done, by simp [read]⟩
    · obtain ⟨-, forwards, inside⟩ := nextToken_ok read
      obtain ⟨tokens, last, repeats, ended⟩ := ih _ (by omega) next rfl
      exact ⟨token :: tokens, last, .more read repeats, ended⟩

/-- Reading a segment is safe at every offset of every path that fits in memory.

It never cuts the path, or a part of it, where there is no character boundary, and no sum of offsets
leaves the range of 64 bits. It gives nothing exactly at the end, behind it, and inside a character.
The next segment starts further on, and a fault is reported no earlier than the offset, both at
boundaries of the path. So reading on ends, after no more tokens than the path has bytes. And
nothing before the offset matters. -/
theorem nextToken_safe {path : String} (fits : path.utf8ByteSize < UInt64.size) (cursor : Nat) :
    Sliced.nextToken path cursor = .ok (nextToken path cursor) ∧
      (nextToken path cursor = none ↔
        path.utf8ByteSize ≤ cursor ∨ ¬ IsBoundary path cursor) ∧
      (∀ token next, nextToken path cursor = some (.ok (token, next)) →
        IsBoundary path next ∧ cursor < next ∧ next ≤ path.utf8ByteSize) ∧
      (∃ tokens last, Repeats path cursor tokens last ∧
        ∀ token next, nextToken path last ≠ some (.ok (token, next))) ∧
      (∀ tokens last, Repeats path cursor tokens last → tokens.length ≤ path.utf8ByteSize) ∧
      (∀ e, nextToken path cursor = some (.error e) →
        IsBoundary path e.offset ∧ cursor ≤ e.offset ∧ e.offset ≤ path.utf8ByteSize) ∧
      ∀ front back, path = front ++ back → cursor = front.utf8ByteSize →
        nextToken path cursor = (nextToken back 0).map (movedAnswer cursor path) := by
  refine ⟨Sliced.nextToken_eq fits cursor, nextToken_none_iff, fun token next => nextToken_ok,
    exists_repeats path cursor, fun tokens last => Repeats.length_le_size,
    fun e => nextToken_error, ?_⟩
  rintro front back rfl rfl
  exact nextToken_moved front back

/-- A letter of two bytes stands before the segment and another one in its brackets. -/
theorem nextToken_safe_accented :
    let path := "é.Array.data[é].x"
    path.utf8ByteSize < UInt64.size ∧
      Sliced.nextToken path 3 = .ok (some (.error { offset := 14, path, fault := .notDecimal })) ∧
      IsBoundary path 14 ∧ ¬ IsBoundary path 1 := by
  intro path
  have fits : path.utf8ByteSize < UInt64.size := by decide
  have fault : nextToken path 3 = some (.error { offset := 14, path, fault := .notDecimal }) := by
    decide +kernel
  have nothing : nextToken path 1 = none := by decide +kernel
  obtain ⟨same, -, -, -, -, reported, -⟩ := nextToken_safe fits 3
  obtain ⟨-, none_iff, -⟩ := nextToken_safe fits 1
  refine ⟨fits, by rw [same, fault], (reported _ fault).1, ?_⟩
  exact (none_iff.1 nothing).resolve_left (by decide)

end ObjectGraph
