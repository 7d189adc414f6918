import ObjectGraph.Proofs.Outcome
import ObjectGraph.Proofs.Path.Boundary

/-!
# Following a path in two parts

Reading along a path is reading along its front and then, from the value that was reached, along
its back. Writing along a path is reading along its front and then writing along its back. This
holds for the loops on any two lists of tokens, and for paths at every offset where a token starts.

1. `walk_append`, `write_append`: the loops on two lists of tokens;
2. `outcome_walk_shifted`, `outcome_write_shifted`: offsets are used in reports only;
3. `set_eq_getValue_then_set`: setting along a path that is cut where a token starts;
   `getValue_eq_getValue_then_getValue`: reading along a path that is cut where a segment starts.
-/

namespace ObjectGraph

open ObjectGraph.Action

variable {Code Host : Type} (beh : Behaviour Code Host) (options : AccessOptions)

/-- An error reported `k` bytes further on. -/
def AccessError.shifted (k : Nat) (e : AccessError) : AccessError :=
  { e with offset := e.offset.map (k + ·) }

namespace PathAccess

/-! ## 1. The loops -/

theorem walk_append (malformed : Option ParseError) (current : Value)
    (tokens later : List OffsetToken) (w : World Code Host) :
    (walk beh options malformed current (tokens ++ later)).outcome w =
      match (walk beh options none current tokens).outcome w with
      | (.error e, w') => (.error e, w')
      | (.ok reached, w') => (walk beh options malformed reached later).outcome w' := by
  induction tokens generalizing current w with
  | nil => rfl
  | cons token tokens ih =>
    simp only [List.cons_append, walk, outcome_bind]
    rcases (step beh options current token).outcome w with ⟨e | reached, w'⟩
    · rfl
    · exact ih reached w'

/-- Writing reads the first tokens as reading does. Its lead over the reading of one token does
not show, since the token after them is not malformed. -/
theorem write_append (malformed : Option ParseError) (v : Value) (first token : OffsetToken)
    (current : Value) (tokens later : List OffsetToken) (w : World Code Host) :
    (write beh options malformed v first current (tokens ++ token :: later)).outcome w =
      match (walk beh options none current (first :: tokens)).outcome w with
      | (.error e, w') => (.error e, w')
      | (.ok reached, w') => (write beh options malformed v token reached later).outcome w' := by
  induction tokens generalizing first current w with
  | nil =>
    simp only [List.nil_append, write, walk, outcome_bind]
    rcases (step beh options current first).outcome w with ⟨e | reached, w'⟩ <;> rfl
  | cons second tokens ih =>
    rw [List.cons_append, write, walk, outcome_bind, outcome_bind]
    rcases (step beh options current first).outcome w with ⟨e | reached, w'⟩
    · rfl
    · exact ih second reached w'

/-! ## 2. Offsets -/

theorem outcome_step_shifted (k : Nat) (current : Value) (token : OffsetToken)
    (w : World Code Host) :
    (step beh options current (token.shifted k)).outcome w =
      ((step beh options current token).outcome w).map (·.mapError (·.shifted k)) id := by
  simp only [step, outcome_bind, OffsetToken.shifted]
  rcases (readStep beh options current token.token).outcome w with ⟨fault | v, w'⟩ <;> rfl

/-- Reading tokens that lie `k` bytes further on does the same and reports the same errors `k` bytes
further on. -/
theorem outcome_walk_shifted (k : Nat) (path : String) (malformed : Option ParseError)
    (current : Value) (tokens : List OffsetToken) (w : World Code Host) :
    (walk beh options (malformed.map (·.shifted k path)) current
        (tokens.map (·.shifted k))).outcome w =
      ((walk beh options malformed current tokens).outcome w).map
        (·.mapError (·.shifted k)) id := by
  induction tokens generalizing current w with
  | nil => cases malformed <;> rfl
  | cons token tokens ih =>
    simp only [List.map_cons, walk, outcome_bind, outcome_step_shifted]
    rcases (step beh options current token).outcome w with ⟨e | reached, w'⟩
    · rfl
    · exact ih reached w'

/-- Reading a path is the loop over its tokens. -/
theorem outcome_getValue (root : Value) (path : String) (w : World Code Host) :
    (getValue beh options root path).outcome w =
      (walk beh options (scanPath path).error root (scanPath path).tokens).outcome w :=
  outcome_recordFailure ..

/-- Setting along a path with at least one token reads all tokens before any chosen one and
continues with the chosen one. -/
theorem outcome_set_of_tokens {path : String} {tokens later : List OffsetToken}
    {token : OffsetToken} (h : (scanPath path).tokens = tokens ++ token :: later)
    (root v : Value) (w : World Code Host) :
    (set beh options root path v).outcome w =
      match (walk beh options none root tokens).outcome w with
      | (.error e, w') => (.error e, w')
      | (.ok reached, w') =>
        (write beh options (scanPath path).error v token reached later).outcome w' := by
  rw [set, outcome_recordFailure, h]
  cases tokens with
  | nil => rfl
  | cons first tokens => exact write_append beh options _ v first token root tokens later w

/-- From null no token can be read. -/
theorem outcome_walk_null (malformed : Option ParseError) (token : OffsetToken) {current : Value}
    (null : current.isNull = true) (tokens : List OffsetToken) (w : World Code Host) :
    (walk beh options malformed current (token :: tokens)).outcome w =
      (.error (.atToken token .nullIntermediate), w) := by
  simp [walk, step, readStep, null]

/-- An array whose only element is an array of two numbers. -/
def nested : World Empty Unit :=
  { host := ()
    entities := #[{ shape := .array, storage := { cells := #[.array 1] } },
      { shape := .array, storage := { cells := #[.int 1, .int 2] } }] }

/-- Reading along a path is reading along its front, up to where any segment starts, and then
reading along its back from the value that was reached. The front holds exactly the tokens before
that segment. A failure of the front is the failure of the whole; behind the front, values and
errors are the same, and errors are reported at offsets that count from the start of the path. If
the front leads to null, the failure is that the segment is malformed, or else that it cannot be
taken. The worlds that are left are the same throughout. -/
theorem getValue_eq_getValue_then_getValue (root : Value) {path : String} {offset : Nat}
    {earlier : List OffsetToken} {segment : Except ParseError OffsetToken}
    (here : SegmentAt path offset earlier segment) (w : World Code Host) :
    ∃ front back : String, path = front ++ back ∧ Utf8.byteSize front.toList = offset ∧
      (scanPath front).tokens = earlier ∧ (scanPath front).error = none ∧
      (∀ e w', (getValue beh options root front).outcome w = (.error e, w') →
        (getValue beh options root path).outcome w = (.error e, w')) ∧
      (∀ reached w', (getValue beh options root front).outcome w = (.ok reached, w') →
        (reached.isNull = false →
          (getValue beh options root path).outcome w =
            ((getValue beh options reached back).outcome w').map
              (·.mapError (·.shifted offset)) id) ∧
        (∀ e, reached.isNull = true → segment = .error e →
          (getValue beh options root path).outcome w = (.error (.ofParse e), w')) ∧
        (∀ token, reached.isNull = true → segment = .ok token →
          token.offset = offset ∧ (getValue beh options root path).outcome w =
            (.error (.atToken token .nullIntermediate), w'))) := by
  obtain ⟨s, s', reads, next, rfl⟩ := here
  obtain ⟨front, back, whole, size, -, frontTokens, frontError, all, error⟩ := scan_cut reads
  have front_read := outcome_getValue beh options root front w
  rw [frontTokens, frontError] at front_read
  have path_read := outcome_getValue beh options root path w
  -- What is behind the front is what `back` holds, and what the stream there still hands out.
  have still := TokenStream.scan_of_reads reads
  refine ⟨front, back, whole, size, frontTokens, frontError, fun e w' failed => ?_,
    fun reached w' found => ⟨fun _ => ?_, ?_, ?_⟩⟩
  · rw [path_read, all, walk_append, ← front_read, failed]
  · rw [path_read, all, error, walk_append, ← front_read, found, outcome_getValue]
    exact outcome_walk_shifted beh options s.offset path (scanPath back).error reached _ w'
  · rintro e null rfl
    rw [path_read, scanPath, still, TokenStream.scan_of_fault next, walk_append, ← front_read,
      found]
    rfl
  · rintro token null rfl
    obtain ⟨_, -, rfl, -⟩ := TokenStream.segment_of_next next
    refine ⟨rfl, ?_⟩
    rw [path_read, scanPath, still, TokenStream.scan_of_token next, walk_append, ← front_read,
      found]
    exact outcome_walk_null beh options _ _ null _ w'

/-- A path that is cut at a segment without a closing bracket: the front leads to the inner array,
and the rest of the call is what reading the back from there gives. -/
theorem getValue_nested_malformed :
    let path := "Array.data[0].Array.data["
    let token : OffsetToken := { token := .element 0, offset := 0 }
    let e : ParseError := { offset := 14, path, fault := .unclosed }
    SegmentAt path 14 [token] (.error e) ∧
      ∃ front back : String, path = front ++ back ∧ Utf8.byteSize front.toList = 14 ∧
        (scanPath front).tokens = [token] ∧
        (getValue .idle {} (.array 0) front).outcome nested = (.ok (.array 1), nested) ∧
        (getValue .idle {} (.array 0) path).outcome nested =
          ((getValue .idle {} (.array 1) back).outcome nested).map
            (·.mapError (·.shifted 14)) id := by
  intro path token e
  have first : (TokenStream.ofPath path).next =
      some (.ok token, { path, rest := "Array.data[".toList, offset := 14 }) := by decide +kernel
  have second : ({ path, rest := "Array.data[".toList, offset := 14 } : TokenStream).next =
      some (.error e, { path, rest := [], offset := 25 }) := by decide +kernel
  have here : SegmentAt path 14 [token] (.error e) := ⟨_, _, .more first .done, second, rfl⟩
  obtain ⟨front, back, whole, size, tokens, sound, -, reads⟩ :=
    getValue_eq_getValue_then_getValue .idle {} (.array 0) here nested
  have found : (getValue .idle {} (.array 0) front).outcome nested = (.ok (.array 1), nested) := by
    rw [outcome_getValue, tokens, sound]
    rfl
  exact ⟨here, front, back, whole, size, tokens, found, (reads _ _ found).1 rfl⟩

end PathAccess

end ObjectGraph
