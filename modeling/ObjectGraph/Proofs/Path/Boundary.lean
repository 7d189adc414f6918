import Mathlib.Data.List.TakeWhile
import ObjectGraph.Path.Segment

/-!
# Cutting a path at a segment boundary

A segment is recognised by its own characters: what a reader makes of it does not change when the
text is cut at a later boundary, nor when it is moved to another offset. So a path that is cut
where a token starts falls into two paths, the first of which holds exactly the tokens before the
cut and the second the others.

1. `readSegment_local`: a segment is read the same whatever part of its rest is cut off;
2. `Reads`: a stream hands out some tokens and arrives at another stream;
   `scan_of_reads`, `reads_of_mem` and `reads_of_error` relate it to `TokenStream.scan`;
3. `scan_shifted`: the offset of a stream only shifts the offsets that it reports;
4. `scan_cut`: the two paths on both sides of a boundary; `SegmentAt`: the boundaries at which a
   segment starts.
-/

namespace ObjectGraph

/-! ## 1. One segment -/

theorem before_append_onwards (stop : Char) (cs : List Char) :
    before stop cs ++ onwards stop cs = cs :=
  List.takeWhile_append_dropWhile

theorem onwards_head {stop c : Char} {cs rest : List Char} (h : onwards stop cs = c :: rest) :
    c = stop := by
  have := List.head?_dropWhile_not (· != stop) cs
  rw [show cs.dropWhile (· != stop) = c :: rest from h] at this
  simpa using this

theorem not_mem_before (stop : Char) (cs : List Char) : stop ∉ before stop cs := by
  intro inside
  have kept := List.mem_takeWhile_imp inside
  simp at kept

/-- A text without `stop` is found again in front of a `stop`. -/
theorem before_of_not_mem {stop : Char} {front : List Char} (absent : stop ∉ front)
    (rest : List Char) : before stop (front ++ stop :: rest) = front := by
  have all : ∀ c ∈ front, (c != stop) = true := fun c inside => by
    simpa using fun same : c = stop => absent (same ▸ inside)
  rw [before, List.takeWhile_append_of_pos all]
  simp

theorem onwards_of_not_mem {stop : Char} {front : List Char} (absent : stop ∉ front)
    (rest : List Char) : onwards stop (front ++ stop :: rest) = stop :: rest := by
  have all : ∀ c ∈ front, (c != stop) = true := fun c inside => by
    simpa using fun same : c = stop => absent (same ▸ inside)
  rw [onwards, List.dropWhile_append_of_pos all]
  simp

theorem before_stop (stop : Char) (cs ds : List Char) :
    before stop (before stop cs ++ stop :: ds) = before stop cs :=
  before_of_not_mem (not_mem_before stop cs) ds

theorem onwards_stop (stop : Char) (cs ds : List Char) :
    onwards stop (before stop cs ++ stop :: ds) = stop :: ds :=
  onwards_of_not_mem (not_mem_before stop cs) ds

theorem afterOpening_eq_some_iff {opening cs after : List Char} :
    afterOpening opening cs = some after ↔ cs = opening ++ after := by
  induction opening generalizing cs with
  | nil => simp [afterOpening]
  | cons o opening ih =>
    cases cs with
    | nil => simp [afterOpening]
    | cons c cs =>
      simp only [afterOpening, List.cons_append, List.cons.injEq]
      split
      · next same => simp [ih, same]
      · next different => simp [Ne.symm different]

theorem indexOpening_ne_nil : Token.indexOpening ≠ [] := by decide

/-- A text that does not begin with the opening of an index has no beginning that does. -/
theorem afterOpening_none_of_append {opening cs ds : List Char}
    (h : afterOpening opening (cs ++ ds) = none) : afterOpening opening cs = none := by
  rcases found : afterOpening opening cs with _ | after
  · rfl
  · rw [afterOpening_eq_some_iff] at found
    have : afterOpening opening (cs ++ ds) = some (after ++ ds) := by
      rw [afterOpening_eq_some_iff, found, List.append_assoc]
    rw [this] at h
    cases h

/-- The name at the front of a text, with its separator if it has one, is read again when a part
of the rest has been cut off. -/
theorem readName_local (cs : List Char) :
    ∃ taken, cs = taken ++ (readName cs).rest ∧ (readName cs).size = Utf8.byteSize taken ∧
      (cs ≠ [] → taken ≠ []) ∧
      ∀ ds more, (readName cs).rest = ds ++ more →
        readName (taken ++ ds) = { readName cs with rest := ds } := by
  have parts := before_append_onwards '.' cs
  rcases found : onwards '.' cs with _ | ⟨c, rest⟩
  · rw [found, List.append_nil] at parts
    refine ⟨cs, ?_, ?_, id, ?_⟩
    · simp [readName, found]
    · simp [readName, found, parts]
    · intro ds more split
      have empty : ds = [] := by
        simp only [readName, found, List.nil_eq, List.append_eq_nil_iff] at split
        exact split.1
      subst empty
      simp [readName, found]
  · obtain rfl := onwards_head found
    rw [found] at parts
    refine ⟨before '.' cs ++ ['.'], ?_, ?_, fun _ => by simp, ?_⟩
    · simp [readName, found, parts]
    · simp [readName, found]; rfl
    · intro ds more _
      have text : before '.' cs ++ ['.'] ++ ds = before '.' cs ++ '.' :: ds := by simp
      rw [text]
      simp [readName, found, before_stop, onwards_stop]

/-- The same for an index segment behind its opening. -/
theorem readIndex_local {cs : List Char} {segment : Segment} (read : readIndex cs = .ok segment) :
    ∃ taken, cs = taken ++ segment.rest ∧
      segment.size = Utf8.byteSize Token.indexOpening + Utf8.byteSize taken ∧
      ∀ ds more, segment.rest = ds ++ more →
        readIndex (taken ++ ds) = .ok { segment with rest := ds } := by
  have parts := before_append_onwards ']' cs
  have kept := before_stop ']' cs
  have behind := onwards_stop ']' cs
  have closing : Utf8.byteSize [']'] = 1 ∧ Utf8.byteSize [']', '.'] = 2 := by decide
  generalize digits_eq : before ']' cs = digits at parts kept behind
  simp only [readIndex, digits_eq] at read
  split at read
  · cases read
  next c tail found =>
  obtain rfl := onwards_head found
  rw [found] at parts
  split at read
  · cases read
  next nonempty =>
  split at read
  · cases read
  next decimal =>
  split at read
  case isFalse => cases read
  next small =>
  split at read
  · cases read
    refine ⟨digits ++ [']'], by simpa using parts.symm, ?_, ?_⟩
    · simp only [Utf8.byteSize_append]; omega
    · intro ds more split
      have empty : ds = [] := by
        simp only [List.nil_eq, List.append_eq_nil_iff] at split
        exact split.1
      subst empty
      simp [readIndex, kept, behind, nonempty, decimal, small]
  next d rest =>
  split at read
  case isFalse => cases read
  next separated =>
  subst separated
  cases read
  refine ⟨digits ++ [']', '.'], by simpa using parts.symm, ?_, ?_⟩
  · simp only [Utf8.byteSize_append]; omega
  · intro ds more _
    have text : digits ++ [']', '.'] ++ ds = digits ++ ']' :: '.' :: ds := by simp
    rw [text]
    simp [readIndex, kept, behind, nonempty, decimal, small]

/-- A segment takes some characters from the front of the text, and takes the same ones when a
part of what follows it has been cut off. -/
theorem readSegment_local {cs : List Char} {segment : Segment}
    (read : readSegment cs = some (.ok segment)) :
    ∃ taken, taken ≠ [] ∧ cs = taken ++ segment.rest ∧ segment.size = Utf8.byteSize taken ∧
      ∀ ds more, segment.rest = ds ++ more →
        readSegment (taken ++ ds) = some (.ok { segment with rest := ds }) := by
  simp only [readSegment] at read
  split at read
  · cases read
  next nonempty =>
  have filled : cs ≠ [] := by simpa using nonempty
  split at read
  · next after found =>
    rw [afterOpening_eq_some_iff] at found
    obtain ⟨taken, whole, size, again⟩ := readIndex_local (Option.some.inj read)
    have starts : ∀ ds, Token.indexOpening ++ ds ≠ [] :=
      fun ds => List.append_ne_nil_of_left_ne_nil indexOpening_ne_nil ds
    refine ⟨Token.indexOpening ++ taken, starts taken, by rw [found, whole, List.append_assoc],
      by rw [size, Utf8.byteSize_append], ?_⟩
    intro ds more split
    rw [List.append_assoc, readSegment, if_neg (by simpa using starts (taken ++ ds)),
      afterOpening_eq_some_iff.2 rfl]
    exact congrArg some (again ds more split)
  · next unopened =>
    simp only [Option.some.injEq, Except.ok.injEq] at read
    subst read
    obtain ⟨taken, whole, size, notEmpty, again⟩ := readName_local cs
    refine ⟨taken, notEmpty filled, whole, size, ?_⟩
    intro ds more split
    have short : afterOpening Token.indexOpening (taken ++ ds) = none := by
      have unopenedThere : afterOpening Token.indexOpening ((taken ++ ds) ++ more) = none := by
        rw [List.append_assoc, ← split, ← whole]
        exact unopened
      exact afterOpening_none_of_append unopenedThere
    simp [readSegment, short, again ds more split, notEmpty filled]

namespace TokenStream

/-! ## 2. Reading up to a boundary -/

theorem scan_of_end {s : TokenStream} (h : s.next = none) :
    s.scan = { tokens := [], error := none, leftover := s } := by
  rw [scan]
  split <;> simp_all

theorem scan_of_fault {s s' : TokenStream} {e : ParseError} (h : s.next = some (.error e, s')) :
    s.scan = { tokens := [], error := some e, leftover := s' } := by
  rw [scan]
  split <;> simp_all

theorem scan_of_token {s s' : TokenStream} {token : OffsetToken}
    (h : s.next = some (.ok token, s')) :
    s.scan = { s'.scan with tokens := token :: s'.scan.tokens } := by
  rw [scan]
  split <;> simp_all

/-- `Reads s tokens s'`: the stream `s` hands out `tokens` one after the other and is then the
stream `s'`. -/
inductive Reads : TokenStream → List OffsetToken → TokenStream → Prop
  | done {s : TokenStream} : Reads s [] s
  | more {s s' s'' : TokenStream} {token : OffsetToken} {tokens : List OffsetToken} :
      s.next = some (.ok token, s') → Reads s' tokens s'' → Reads s (token :: tokens) s''

/-- What a stream hands out in all is what it hands out before a boundary, and then what the
stream at the boundary hands out. -/
theorem scan_of_reads {s s' : TokenStream} {tokens : List OffsetToken} (h : Reads s tokens s') :
    s.scan = { s'.scan with tokens := tokens ++ s'.scan.tokens } := by
  induction h with
  | done => rfl
  | more next _ ih => rw [scan_of_token next, ih]; rfl

/-- A token that is handed out is the segment at the front of the stream. -/
theorem segment_of_next {s s' : TokenStream} {token : OffsetToken}
    (h : s.next = some (.ok token, s')) :
    ∃ segment, readSegment s.rest = some (.ok segment) ∧
      token = { token := segment.token, offset := s.offset } ∧
      s' = { s with rest := segment.rest, offset := s.offset + segment.size } := by
  simp only [next] at h
  split at h
  · cases h
  · next segment found =>
    simp only [Option.some.injEq, Prod.mk.injEq, Except.ok.injEq] at h
    exact ⟨segment, found, h.1.symm, h.2.symm⟩
  · simp at h

/-- A fault that a stream hands out is at the front of a stream that it arrives at when it has
handed out all its tokens. -/
theorem reads_of_error {s : TokenStream} {e : ParseError} (h : s.scan.error = some e) :
    ∃ s' s'', Reads s s.scan.tokens s' ∧ s'.next = some (.error e, s'') := by
  induction s using scan.induct with
  | case1 s ended => simp [scan_of_end ended] at h
  | case2 s e' s' fault =>
    rw [scan_of_fault fault] at h ⊢
    cases h
    exact ⟨s, s', .done, fault⟩
  | case3 s token s' next ih =>
    rw [scan_of_token next] at h ⊢
    obtain ⟨t, t', reads, here⟩ := ih h
    exact ⟨t, t', .more next reads, here⟩

/-! ## 3. Moving a stream -/

/-- A stream over the same rest in another path, `k` bytes further on. -/
def shifted (k : Nat) (path : String) (s : TokenStream) : TokenStream :=
  { path, rest := s.rest, offset := k + s.offset }

end TokenStream

/-- A token reported `k` bytes further on. -/
def OffsetToken.shifted (k : Nat) (token : OffsetToken) : OffsetToken :=
  { token with offset := k + token.offset }

/-- A fault reported `k` bytes further on, in another path. -/
def ParseError.shifted (k : Nat) (path : String) (e : ParseError) : ParseError :=
  { e with offset := k + e.offset, path }

namespace TokenStream

/-- Moving a stream moves all that it reports and changes nothing else. -/
theorem scan_shifted (k : Nat) (path : String) (s : TokenStream) :
    (s.shifted k path).scan.tokens = s.scan.tokens.map (·.shifted k) ∧
      (s.shifted k path).scan.error = s.scan.error.map (·.shifted k path) := by
  induction s using scan.induct with
  | case1 s ended =>
    have moved : (s.shifted k path).next = none := by
      simp only [next, shifted] at ended ⊢
      split at ended <;> simp_all
    simp [scan_of_end ended, scan_of_end moved]
  | case2 s e s' fault =>
    obtain ⟨t, moved⟩ : ∃ t, (s.shifted k path).next = some (.error (e.shifted k path), t) := by
      simp only [next, shifted] at fault ⊢
      split at fault <;> simp_all
      rw [← fault.1]
      simp [ParseError.shifted, Nat.add_assoc]
    simp [scan_of_fault fault, scan_of_fault moved]
  | case3 s token s' read ih =>
    have moved : (s.shifted k path).next = some (.ok (token.shifted k), s'.shifted k path) := by
      simp only [next, shifted] at read ⊢
      split at read <;> simp_all
      rw [← read.1, ← read.2]
      simp [OffsetToken.shifted, Nat.add_assoc]
    simp [scan_of_token read, scan_of_token moved, ih.1, ih.2]

/-! ## 4. Both sides of a boundary -/

/-- The text before a boundary holds the tokens before it and no fault, and the offset of the
boundary is the size of that text. -/
theorem reads_front {s s' : TokenStream} {tokens : List OffsetToken} (h : Reads s tokens s') :
    ∃ taken, s.rest = taken ++ s'.rest ∧ s'.offset = s.offset + Utf8.byteSize taken ∧
      ∀ path, (TokenStream.mk path taken s.offset).scan.tokens = tokens ∧
        (TokenStream.mk path taken s.offset).scan.error = none := by
  induction h with
  | @done s =>
    refine ⟨[], rfl, rfl, fun path => ?_⟩
    have ended : (TokenStream.mk path [] s.offset).next = none := rfl
    simp [scan_of_end ended]
  | @more s s' s'' token tokens read _ ih =>
    obtain ⟨later, whole, offset, scanned⟩ := ih
    obtain ⟨segment, found, rfl, rfl⟩ := segment_of_next read
    obtain ⟨taken, _, text, size, again⟩ := readSegment_local found
    simp only at whole offset scanned
    refine ⟨taken ++ later, by rw [text, whole, List.append_assoc], ?_, fun path => ?_⟩
    · rw [offset, Utf8.byteSize_append, ← size, Nat.add_assoc]
    · have first : (TokenStream.mk path (taken ++ later) s.offset).next =
          some (.ok { token := segment.token, offset := s.offset },
            TokenStream.mk path later (s.offset + segment.size)) := by
        simp only [next, again later s''.rest whole]
      rw [scan_of_token first]
      exact ⟨congrArg _ (scanned path).1, (scanned path).2⟩

theorem reads_path {s s' : TokenStream} {tokens : List OffsetToken} (h : Reads s tokens s') :
    s'.path = s.path := by
  induction h with
  | done => rfl
  | more read _ ih =>
    obtain ⟨_, _, _, rfl⟩ := segment_of_next read
    exact ih

end TokenStream

/-- A path that is cut at a segment boundary. The front holds the tokens before the cut and no
fault. The back holds all that the path holds from there on, at offsets that count from the
cut. -/
theorem scan_cut {path : String} {s : TokenStream} {tokens : List OffsetToken}
    (h : TokenStream.Reads (.ofPath path) tokens s) :
    ∃ front back : String, path = front ++ back ∧ Utf8.byteSize front.toList = s.offset ∧
      s = (TokenStream.ofPath back).shifted s.offset path ∧
      (scanPath front).tokens = tokens ∧ (scanPath front).error = none ∧
      (scanPath path).tokens = tokens ++ (scanPath back).tokens.map (·.shifted s.offset) ∧
      (scanPath path).error = (scanPath back).error.map (·.shifted s.offset path) := by
  obtain ⟨taken, whole, offset, scanned⟩ := TokenStream.reads_front h
  have start : s.offset = Utf8.byteSize taken := offset.trans (Nat.zero_add _)
  have moved : s = (TokenStream.ofPath (String.ofList s.rest)).shifted s.offset path := by
    obtain ⟨path', rest, offset'⟩ := s
    obtain rfl : path' = path := TokenStream.reads_path h
    simp [TokenStream.shifted, TokenStream.ofPath]
  have back := TokenStream.scan_shifted s.offset path (.ofPath (String.ofList s.rest))
  rw [← moved] at back
  have all := TokenStream.scan_of_reads h
  refine ⟨String.ofList taken, String.ofList s.rest, ?_, by rw [String.toList_ofList, start],
    moved, ?_, ?_, ?_, ?_⟩
  · rw [← String.ofList_append, ← whole]
    exact String.ofList_toList.symm
  · rw [scanPath, TokenStream.ofPath, String.toList_ofList]
    exact (scanned _).1
  · rw [scanPath, TokenStream.ofPath, String.toList_ofList]
    exact (scanned _).2
  · rw [scanPath, all]
    exact congrArg _ back.1
  · rw [scanPath, all]
    exact back.2

/-- Reading the path arrives at a segment that starts at the offset, when the tokens `earlier` have
been handed out. The segment is a token or malformed. -/
def SegmentAt (path : String) (offset : Nat) (earlier : List OffsetToken)
    (segment : Except ParseError OffsetToken) : Prop :=
  ∃ s s', TokenStream.Reads (.ofPath path) earlier s ∧ s.next = some (segment, s') ∧
    s.offset = offset

/-- And there is one for the fault that a path has, behind all its tokens. -/
theorem segmentAt_of_error {path : String} {e : ParseError}
    (malformed : (scanPath path).error = some e) :
    ∃ offset, SegmentAt path offset (scanPath path).tokens (.error e) := by
  obtain ⟨s, s', reads, here⟩ := TokenStream.reads_of_error malformed
  exact ⟨s.offset, s, s', reads, here, rfl⟩

end ObjectGraph
