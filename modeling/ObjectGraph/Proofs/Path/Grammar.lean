import ObjectGraph.Proofs.Path.Boundary

/-!
# The grammar of paths

A path is a list of pieces, separated by `.`; an empty piece at the end does not count. Two pieces
`Array` and `data[N]` that follow each other are one segment, which stands for element `N`; if the
second one begins with `data[` and is nothing of that form, the segment is malformed. Every other
piece is a segment of its own and the name of a member.

The reader of segments does not split a path first. It looks for the opening of an index at the
front of the text, and for the closing bracket anywhere behind it. It accepts the same paths.

1. `Grammar.pieces`, `Grammar.read`: the grammar, as a function of the pieces of a path;
2. `pieces_eq`: the pieces of a text, the first one first;
3. `readIndex_of_index`, `readIndex_of_not_index`: an index segment and its second piece;
4. `read_of_token`, `read_of_fault`: one step of a stream is one step of the grammar, from which
   `scan_eq_read` follows;
5. `answer_eq_reading`: all that a stream ever hands out.
-/

namespace ObjectGraph

namespace Grammar

/-! ## 1. The grammar -/

/-- Removes the last piece if it is empty. -/
def dropFinalEmpty (pieces : List (List Char)) : List (List Char) :=
  if pieces.getLast? = some [] then pieces.dropLast else pieces

/-- The pieces of a text. -/
def pieces (cs : List Char) : List (List Char) := dropFinalEmpty (cs.splitOn '.')

/-- The first piece of an index segment. -/
def arrayPiece : List Char := "Array".toList

/-- The opening of the second piece of an index segment. -/
def dataOpening : List Char := "data[".toList

/-- One or more ASCII digits whose value fits in 64 bits. Any number of zeros may lead. -/
def IsIndex (digits : List Char) : Prop :=
  digits ≠ [] ∧ digits.all Decimal.isDigit = true ∧ Decimal.value digits < UInt64.size

instance (digits : List Char) : Decidable (IsIndex digits) :=
  inferInstanceAs (Decidable (_ ∧ _ ∧ _))

/-- The index in a piece of the form `data[N]`. -/
def indexOf? (piece : List Char) : Option UInt64 :=
  let digits := (piece.drop dataOpening.length).dropLast
  if piece = dataOpening ++ digits ++ [']'] ∧ IsIndex digits then
    some (UInt64.ofNat (Decimal.value digits))
  else none

/-- What the grammar makes of a path: the tokens up to its end or up to its first malformed
segment, and the offset at which that segment starts. -/
structure Reading where
  tokens : List OffsetToken
  illegal : Option Nat
deriving DecidableEq, Repr, Inhabited

/-- Puts a token in front. -/
def Reading.cons (token : OffsetToken) (reading : Reading) : Reading :=
  { reading with tokens := token :: reading.tokens }

/-- Reads pieces from left to right, the first of which starts at an offset. -/
def read : Nat → List (List Char) → Reading
  | _, [] => { tokens := [], illegal := none }
  | start, [piece] =>
    { tokens := [{ token := .member (String.ofList piece), offset := start }], illegal := none }
  | start, piece :: next :: later =>
    if piece = arrayPiece ∧ dataOpening <+: next then
      match indexOf? next with
      | some index =>
        .cons { token := .element index, offset := start }
          (read (start + Utf8.byteSize piece + 1 + Utf8.byteSize next + 1) later)
      | none => { tokens := [], illegal := some start }
    else
      .cons { token := .member (String.ofList piece), offset := start }
        (read (start + Utf8.byteSize piece + 1) (next :: later))

/-- What the grammar makes of a whole path. -/
def reading (path : String) : Reading := read 0 (pieces path.toList)

example :
    reading "a..Array.data[007].Array.data[1]x." =
      { tokens := [⟨.member "a", 0⟩, ⟨.member "", 2⟩, ⟨.element 7, 3⟩], illegal := some 19 } := by
  decide +kernel

theorem indexOf?_eq_some_iff {piece : List Char} {index : UInt64} :
    indexOf? piece = some index ↔ ∃ digits, piece = dataOpening ++ digits ++ [']'] ∧
      IsIndex digits ∧ index = UInt64.ofNat (Decimal.value digits) := by
  unfold indexOf?
  constructor
  · intro found
    simp only at found
    split at found
    · next legal => exact ⟨_, legal.1, legal.2, (Option.some.inj found).symm⟩
    · cases found
  · rintro ⟨digits, rfl, legal, rfl⟩
    simp [legal]

/-! ## 2. Pieces -/

theorem dropFinalEmpty_cons (piece : List Char) {later : List (List Char)} (more : later ≠ []) :
    dropFinalEmpty (piece :: later) = piece :: dropFinalEmpty later := by
  obtain ⟨next, rest, rfl⟩ := List.exists_cons_of_ne_nil more
  simp only [dropFinalEmpty, List.getLast?_cons_cons, List.dropLast_cons_cons]
  split <;> rfl

theorem before_eq_self {stop : Char} {cs : List Char} (absent : stop ∉ cs) :
    before stop cs = cs := by
  refine List.takeWhile_eq_self_iff.2 fun c inside => ?_
  simpa using fun same : c = stop => absent (same ▸ inside)

/-- The first piece of a text runs to the first separator; behind it come the pieces of what
follows. -/
theorem pieces_eq {cs : List Char} (filled : cs ≠ []) :
    pieces cs = before '.' cs :: pieces (onwards '.' cs).tail := by
  have whole := before_append_onwards '.' cs
  have absent := not_mem_before '.' cs
  rcases found : onwards '.' cs with _ | ⟨c, rest⟩
  · rw [found, List.append_nil] at whole
    rw [whole] at absent ⊢
    rw [pieces, List.splitOn_eq_singleton absent]
    simp [dropFinalEmpty, filled, pieces]
  · obtain rfl := onwards_head found
    rw [found] at whole
    have split : cs.splitOn '.' = before '.' cs :: rest.splitOn '.' := by
      rw [← List.splitOn_append_cons_self_of_not_mem absent rest, whole]
    rw [pieces, split, dropFinalEmpty_cons _ (List.splitOn_ne_nil _ _)]
    rfl

@[simp] theorem pieces_nil : pieces [] = [] := rfl

/-! ## 3. Index segments -/

theorem indexOpening_eq : Token.indexOpening = arrayPiece ++ '.' :: dataOpening := by decide

theorem dot_not_mem_arrayPiece : '.' ∉ arrayPiece := by decide

theorem dot_not_mem_dataOpening : '.' ∉ dataOpening := by decide

theorem not_mem_digits {stop : Char} (other : Decimal.isDigit stop = false) {digits : List Char}
    (all : digits.all Decimal.isDigit = true) : stop ∉ digits := by
  intro inside
  have digit := List.all_eq_true.1 all stop inside
  simp [other] at digit

/-- The second piece of an index segment, from the text behind the opening. -/
theorem before_dataOpening (after : List Char) :
    before '.' (dataOpening ++ after) = dataOpening ++ before '.' after ∧
      onwards '.' (dataOpening ++ after) = onwards '.' after := by
  have all : ∀ c ∈ dataOpening, (c != '.') = true := fun c inside =>
    bne_iff_ne.2 fun same => dot_not_mem_dataOpening (same ▸ inside)
  exact ⟨List.takeWhile_append_of_pos all, List.dropWhile_append_of_pos all⟩

/-- The bytes of a separator, if one follows. -/
def stopSize (cs : List Char) : Nat := if cs.isEmpty then 0 else 1

/-- A second piece of the form `data[N]` is read as an index. -/
theorem readIndex_of_index {after : List Char} {index : UInt64}
    (legal : indexOf? (dataOpening ++ before '.' after) = some index) :
    readIndex after = .ok
      { token := .element index
        size := Utf8.byteSize Token.indexOpening + Utf8.byteSize (before '.' after) +
          stopSize (onwards '.' after)
        rest := (onwards '.' after).tail } := by
  obtain ⟨digits, form, ⟨nonempty, decimal, small⟩, rfl⟩ := indexOf?_eq_some_iff.1 legal
  rw [List.append_assoc, List.append_cancel_left_eq] at form
  have whole := before_append_onwards '.' after
  have absent : ']' ∉ digits := not_mem_digits (by decide) decimal
  rw [form, List.append_assoc, List.singleton_append] at whole
  have digits_before := before_of_not_mem absent (onwards '.' after)
  have digits_onwards := onwards_of_not_mem absent (onwards '.' after)
  rw [whole] at digits_before digits_onwards
  have closing : Utf8.byteSize [']'] = 1 := by decide
  rw [form, Utf8.byteSize_append, closing]
  rcases found : onwards '.' after with _ | ⟨c, rest⟩
  · rw [found] at digits_onwards
    simp [readIndex, digits_before, digits_onwards, nonempty, decimal, small, stopSize,
      Nat.add_assoc]
  · obtain rfl := onwards_head found
    rw [found] at digits_onwards
    simp [readIndex, digits_before, digits_onwards, nonempty, decimal, small, stopSize,
      Nat.add_assoc]

/-- Any other second piece is a fault, reported at a character boundary of the text. -/
theorem readIndex_of_not_index {after : List Char}
    (illegal : indexOf? (dataOpening ++ before '.' after) = none) :
    ∃ fault offset, readIndex after = .error (fault, offset) ∧
      ∃ front back, Token.indexOpening ++ after = front ++ back ∧
        offset = Utf8.byteSize front := by
  have whole := before_append_onwards ']' after
  have atStart : ∃ front back, Token.indexOpening ++ after = front ++ back ∧
      0 = Utf8.byteSize front := ⟨[], _, rfl, rfl⟩
  have behindOpening : ∃ front back, Token.indexOpening ++ after = front ++ back ∧
      Utf8.byteSize Token.indexOpening = Utf8.byteSize front := ⟨_, _, rfl, rfl⟩
  generalize digits_eq : before ']' after = digits at whole
  simp only [readIndex, digits_eq]
  split
  · exact ⟨_, _, rfl, atStart⟩
  next c tail found =>
  obtain rfl := onwards_head found
  rw [found] at whole
  split
  · exact ⟨_, _, rfl, behindOpening⟩
  next nonempty =>
  split
  · exact ⟨_, _, rfl, behindOpening⟩
  next decimal =>
  simp only [Bool.not_eq_true', Bool.not_eq_false] at decimal
  split
  case isFalse => exact ⟨_, _, rfl, behindOpening⟩
  next small =>
  -- The digits and the bracket are in order, so the piece goes on behind the bracket.
  have index : IsIndex digits := ⟨by simpa using nonempty, decimal, small⟩
  have absent : '.' ∉ digits ++ [']'] := by
    simpa using not_mem_digits (by decide) decimal
  have legal (same : before '.' after = digits ++ [']']) : False := by
    have is_index := indexOf?_eq_some_iff.2 ⟨digits, rfl, index, rfl⟩
    rw [List.append_assoc, ← same, illegal] at is_index
    cases is_index
  split
  · refine (legal ?_).elim
    rw [← whole]
    exact before_eq_self absent
  next d rest =>
  split
  · next separated =>
    subst separated
    refine (legal ?_).elim
    rw [← whole, show digits ++ ']' :: '.' :: rest = digits ++ [']'] ++ '.' :: rest by simp]
    exact before_of_not_mem absent rest
  · refine ⟨_, _, rfl, Token.indexOpening ++ digits ++ [']'], d :: rest, ?_, ?_⟩
    · rw [← whole]
      simp
    · rw [Utf8.byteSize_append, Utf8.byteSize_append]
      rfl

/-! ## 4. One step of a stream -/

/-- A piece and what follows it open an index segment. -/
def OpensIndex (piece : List Char) (later : List (List Char)) : Prop :=
  piece = arrayPiece ∧ ∃ next rest, later = next :: rest ∧ dataOpening <+: next

theorem read_member {start : Nat} {piece : List Char} {later : List (List Char)}
    (plain : ¬ OpensIndex piece later) :
    read start (piece :: later) =
      .cons { token := .member (String.ofList piece), offset := start }
        (read (start + Utf8.byteSize piece + 1) later) := by
  cases later with
  | nil => rfl
  | cons next rest =>
    have unopened : ¬ (piece = arrayPiece ∧ dataOpening <+: next) :=
      fun opened => plain ⟨opened.1, next, rest, rfl, opened.2⟩
    rw [read]
    exact if_neg unopened

theorem read_index {start : Nat} {next : List Char} (later : List (List Char))
    (opened : dataOpening <+: next) :
    read start (arrayPiece :: next :: later) =
      match indexOf? next with
      | some index =>
        .cons { token := .element index, offset := start }
          (read (start + Utf8.byteSize arrayPiece + 1 + Utf8.byteSize next + 1) later)
      | none => { tokens := [], illegal := some start } := by
  rw [read]
  exact if_pos ⟨rfl, opened⟩

/-- A text without the opening of an index at its front does not begin with the two pieces of an
index segment. -/
theorem not_opensIndex {cs : List Char} (unopened : afterOpening Token.indexOpening cs = none) :
    ¬ OpensIndex (before '.' cs) (pieces (onwards '.' cs).tail) := by
  rintro ⟨array, next, rest, split, opened⟩
  have whole := before_append_onwards '.' cs
  rcases found : onwards '.' cs with _ | ⟨c, behind⟩
  · rw [found] at split
    cases split
  obtain rfl := onwards_head found
  rw [found, List.tail_cons] at split
  have filled : behind ≠ [] := by
    rintro rfl
    cases split
  rw [pieces_eq filled, List.cons.injEq] at split
  rw [← split.1] at opened
  obtain ⟨after, text⟩ := opened.trans ⟨onwards '.' behind, before_append_onwards '.' behind⟩
  have starts : afterOpening Token.indexOpening cs = some after := by
    rw [afterOpening_eq_some_iff, ← whole, found, array, ← text, indexOpening_eq,
      List.append_assoc, List.cons_append]
  rw [unopened] at starts
  cases starts

/-- The pieces of a text that begins with the opening of an index. -/
theorem pieces_indexOpening (after : List Char) :
    pieces (Token.indexOpening ++ after) =
      arrayPiece :: (dataOpening ++ before '.' after) :: pieces (onwards '.' after).tail := by
  have text : Token.indexOpening ++ after = arrayPiece ++ '.' :: (dataOpening ++ after) := by
    rw [indexOpening_eq, List.append_assoc, List.cons_append]
  have second : dataOpening ++ after ≠ [] := by
    exact List.append_ne_nil_of_left_ne_nil (by decide) after
  rw [text, pieces_eq (by simp), before_of_not_mem dot_not_mem_arrayPiece,
    onwards_of_not_mem dot_not_mem_arrayPiece, List.tail_cons, pieces_eq second,
    (before_dataOpening after).1, (before_dataOpening after).2]

/-- The token that a stream hands out is the first one that the grammar reads, and the grammar
goes on where the stream does. -/
theorem read_of_token {s s' : TokenStream} {token : OffsetToken}
    (h : s.next = some (.ok token, s')) :
    read s.offset (pieces s.rest) = .cons token (read s'.offset (pieces s'.rest)) := by
  obtain ⟨segment, found, rfl, rfl⟩ := TokenStream.segment_of_next h
  simp only [readSegment] at found
  split at found
  · cases found
  next nonempty =>
  have filled : s.rest ≠ [] := by simpa using nonempty
  split at found
  · next after opening =>
    have read_after := Option.some.inj found
    have text := afterOpening_eq_some_iff.1 opening
    have opened : dataOpening <+: dataOpening ++ before '.' after := List.prefix_append _ _
    rw [text, pieces_indexOpening, read_index _ opened]
    rcases legal : indexOf? (dataOpening ++ before '.' after) with _ | index
    · obtain ⟨fault, offset, illegal, -⟩ := readIndex_of_not_index legal
      rw [illegal] at read_after
      cases read_after
    · rw [readIndex_of_index legal] at read_after
      cases read_after
      have openings : Utf8.byteSize Token.indexOpening =
          Utf8.byteSize arrayPiece + 1 + Utf8.byteSize dataOpening := by decide
      rcases onwards '.' after with _ | ⟨c, rest⟩
      · rfl
      · have offsets : s.offset + Utf8.byteSize arrayPiece + 1 +
            Utf8.byteSize (dataOpening ++ before '.' after) + 1 =
            s.offset + (Utf8.byteSize Token.indexOpening + Utf8.byteSize (before '.' after) +
              1) := by
          rw [Utf8.byteSize_append, openings]
          omega
        simp only [offsets, stopSize, List.tail_cons, List.isEmpty_cons, Bool.false_eq_true,
          if_false]
  · next unopened =>
    simp only [Option.some.injEq, Except.ok.injEq] at found
    subst found
    rw [pieces_eq filled, read_member (not_opensIndex unopened)]
    rcases behind : onwards '.' s.rest with _ | ⟨c, rest⟩
    · simp [readName, behind, read]
    · simp [readName, behind, Nat.add_assoc]

/-- A fault of a stream is an index segment that the grammar rejects. It is reported at a
character boundary of the text. -/
theorem read_of_fault {s s' : TokenStream} {e : ParseError}
    (h : s.next = some (.error e, s')) :
    read s.offset (pieces s.rest) = { tokens := [], illegal := some s.offset } ∧
      e.path = s.path ∧
      ∃ front back, s.rest = front ++ back ∧ e.offset = s.offset + Utf8.byteSize front := by
  simp only [TokenStream.next] at h
  split at h
  · cases h
  · simp at h
  next fault offset found =>
  simp only [Option.some.injEq, Prod.mk.injEq, Except.error.injEq] at h
  obtain ⟨rfl, -⟩ := h
  simp only [readSegment] at found
  split at found
  · cases found
  split at found
  · next after opening =>
    have read_after := Option.some.inj found
    have text := afterOpening_eq_some_iff.1 opening
    have opened : dataOpening <+: dataOpening ++ before '.' after := List.prefix_append _ _
    rcases legal : indexOf? (dataOpening ++ before '.' after) with _ | index
    · obtain ⟨fault', offset', illegal, front, back, split, size⟩ := readIndex_of_not_index legal
      rw [illegal] at read_after
      cases read_after
      refine ⟨?_, rfl, front, back, text.trans split, congrArg _ size⟩
      rw [text, pieces_indexOpening, read_index _ opened, legal]
    · rw [readIndex_of_index legal] at read_after
      cases read_after
  · simp at found

theorem rest_of_end {s : TokenStream} (h : s.next = none) : s.rest = [] := by
  simp only [TokenStream.next, readSegment] at h
  split at h
  · next found =>
    split at found
    · next empty => simpa using empty
    · split at found <;> cases found
  · cases h
  · cases h

/-! ## 5. A whole run -/

/-- A fault of a malformed segment that starts at an offset of a path: it is reported there or
behind, at a character boundary of the path. -/
def ReportedFrom (path : String) (start : Nat) (e : ParseError) : Prop :=
  e.path = path ∧ start ≤ e.offset ∧
    ∃ front back : String, path = front ++ back ∧ Utf8.byteSize front.toList = e.offset

/-- A stream hands out the tokens that the grammar reads, and a fault if and only if the grammar
rejects a segment. -/
theorem scan_eq_read (s : TokenStream) :
    s.scan.tokens = (read s.offset (pieces s.rest)).tokens ∧
      match (read s.offset (pieces s.rest)).illegal with
      | none => s.scan.error = none
      | some start => ∃ e, s.scan.error = some e ∧ e.path = s.path ∧ start ≤ e.offset ∧
          ∃ front back, s.rest = front ++ back ∧ e.offset = s.offset + Utf8.byteSize front := by
  induction s using TokenStream.scan.induct with
  | case1 s ended =>
    rw [TokenStream.scan_of_end ended, rest_of_end ended]
    exact ⟨rfl, rfl⟩
  | case2 s e s' fault =>
    obtain ⟨rejected, path, front, back, split, offset⟩ := read_of_fault fault
    rw [TokenStream.scan_of_fault fault, rejected]
    exact ⟨rfl, e, rfl, path, by omega, front, back, split, offset⟩
  | case3 s token s' read_token ih =>
    obtain ⟨tokens, faults⟩ := ih
    rw [TokenStream.scan_of_token read_token, read_of_token read_token]
    refine ⟨congrArg _ tokens, ?_⟩
    -- A fault further on lies behind the characters of this segment.
    obtain ⟨segment, found, rfl, rfl⟩ := TokenStream.segment_of_next read_token
    obtain ⟨taken, -, whole, size, -⟩ := readSegment_local found
    simp only [Reading.cons] at faults ⊢
    split at faults
    · exact faults
    · next start illegal =>
      obtain ⟨e, fault, path, behind, front, back, split, offset⟩ := faults
      refine ⟨e, fault, path, behind, taken ++ front, back, ?_, ?_⟩
      · rw [whole, split, List.append_assoc]
      · rw [offset, size, Utf8.byteSize_append, Nat.add_assoc]

end Grammar

namespace TokenStream

/-- The stream after one question. A stream with nothing to hand out stays as it is. -/
def advance (s : TokenStream) : TokenStream :=
  match s.next with
  | none => s
  | some (_, s') => s'

/-- The answer to question `n`, after all questions before it. -/
def answer : TokenStream → Nat → Option (Except ParseError OffsetToken)
  | s, 0 => s.next.map (·.1)
  | s, n + 1 => answer s.advance n

theorem answer_of_end {s : TokenStream} (ended : s.next = none) (n : Nat) :
    s.answer n = none := by
  induction n with
  | zero => simp [answer, ended]
  | succ n ih => simpa [answer, advance, ended] using ih

/-- Question by question a stream hands out its tokens, then its fault, and then nothing. -/
theorem answer_eq_scan (s : TokenStream) (n : Nat) :
    s.answer n = (s.scan.tokens.map .ok ++ s.scan.error.toList.map .error)[n]? := by
  induction s using scan.induct generalizing n with
  | case1 s ended => simp [scan_of_end ended, answer_of_end ended]
  | case2 s e s' fault =>
    rw [scan_of_fault fault]
    cases n with
    | zero => simp [answer, fault]
    | succ n =>
      have exhausted : s'.next = none := by
        simp only [next] at fault
        split at fault
        · cases fault
        · simp at fault
        · cases fault
          rfl
      simp [answer, advance, fault, answer_of_end exhausted]
  | case3 s token s' read ih =>
    rw [scan_of_token read]
    cases n with
    | zero => simp [answer, read]
    | succ n => simpa [answer, advance, read] using ih n

end TokenStream

/-- All that the stream of a path hands out: the tokens of the grammar, each with the offset of
its segment; then, if a segment is malformed, one fault; and then nothing for ever. -/
theorem Grammar.answer_eq_reading (path : String) :
    ∃ faults : List ParseError,
      (∀ n, (TokenStream.ofPath path).answer n =
        ((reading path).tokens.map .ok ++ faults.map .error)[n]?) ∧
      match (reading path).illegal with
      | none => faults = []
      | some start => ∃ e, faults = [e] ∧ ReportedFrom path start e := by
  obtain ⟨tokens, faults⟩ := scan_eq_read (.ofPath path)
  refine ⟨(scanPath path).error.toList, ?_, ?_⟩
  · intro n
    rw [TokenStream.answer_eq_scan, tokens]
    rfl
  · simp only [TokenStream.ofPath] at faults
    simp only [reading, scanPath, TokenStream.ofPath]
    split at faults
    · rw [faults]
      rfl
    · next start illegal =>
      obtain ⟨e, fault, same, behind, front, back, split, offset⟩ := faults
      refine ⟨e, by rw [fault]; rfl, same, behind, String.ofList front, String.ofList back, ?_, ?_⟩
      · rw [← String.ofList_append, ← split, String.ofList_toList]
      · rw [String.toList_ofList, offset, Nat.zero_add]

end ObjectGraph
