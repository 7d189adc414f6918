import ObjectGraph.Proofs.Access.Following
import ObjectGraph.Proofs.Access.Place

/-!
# Where a path fails

A call that follows a path arrives at its tokens one after the other, each on a container and in a
world that the tokens before it have led to. If the call fails then one token is to blame, the one
at which it has arrived and that could not be read or written, unless the path itself is at fault.

1. `Arrives`: the tokens that a call arrives at, and with what;
2. `walk_error_cases`, `set_error_cases`: how reading and writing along a path can fail;
3. `outcome_getValue_of_arrives`, `outcome_set_of_arrives`: tokens at which they do fail.
-/

namespace ObjectGraph

open ObjectGraph.Action

variable {Code Host : Type} (beh : Behaviour Code Host) (options : AccessOptions)

namespace PathAccess

/-! ## 1. Arriving at a token -/

/-- The tokens before `token` have been read from `root` on. They have led to `container` and to the
world `w'`, and behind the token there are still `later`. -/
def Arrives (root : Value) (tokens : List OffsetToken) (w : World Code Host) (container : Value)
    (token : OffsetToken) (later : List OffsetToken) (w' : World Code Host) : Prop :=
  ∃ front, tokens = front ++ token :: later ∧
    (walk beh options none root front).outcome w = (.ok container, w')

variable {beh options} {root container : Value} {tokens later : List OffsetToken}
  {token : OffsetToken} {w w' : World Code Host}

/-- A call begins by arriving at its first token. -/
theorem arrives_first : Arrives beh options root (token :: later) w root token later w :=
  ⟨[], rfl, rfl⟩

/-- What is arrived at after a step is arrived at with that step. -/
theorem Arrives.after_step {first : OffsetToken} {next : Value} {w₁ : World Code Host}
    (stepped : (step beh options root first).outcome w = (.ok next, w₁))
    (arrives : Arrives beh options next tokens w₁ container token later w') :
    Arrives beh options root (first :: tokens) w container token later w' := by
  obtain ⟨front, split, walked⟩ := arrives
  refine ⟨first :: front, by rw [split, List.cons_append], ?_⟩
  rw [walk, outcome_bind, stepped]
  exact walked

/-- What reading the tokens before a token leads to is what is arrived at. -/
theorem Follows.arrives {log : List LogRecord} {earlier : List OffsetToken}
    (follows : Follows beh options root w earlier ⟨.ok container, w', log⟩)
    (whole : tokens = earlier ++ token :: later) :
    Arrives beh options root tokens w container token later w' :=
  ⟨earlier, whole, outcome_of_run follows.run_walk⟩

theorem outcome_step (beh : Behaviour Code Host) (options : AccessOptions) (container : Value)
    (token : OffsetToken) (w : World Code Host) :
    (step beh options container token).outcome w =
      ((readStep beh options container token.token).outcome w).map
        (·.mapError (.atToken token)) id := by
  simp only [step, outcome_bind]
  rcases (readStep beh options container token.token).outcome w with ⟨fault | v, w'⟩ <;> rfl

theorem outcome_writeLast (beh : Behaviour Code Host) (container : Value) (token : OffsetToken)
    (v : Value) (w : World Code Host) :
    (writeLast beh container token v).outcome w =
      ((DeferredWrite.apply beh ⟨container, token.token⟩ v).outcome w).map
        (·.mapError (.atToken token)) id := by
  simp only [writeLast, outcome_bind, outcome_record]
  rcases (DeferredWrite.apply beh ⟨container, token.token⟩ v).outcome w with ⟨fault | v, w'⟩ <;> rfl

/-- Reading one token is a step. -/
theorem outcome_walk_singleton (beh : Behaviour Code Host) (options : AccessOptions)
    (container : Value) (token : OffsetToken) (w : World Code Host) :
    (walk beh options none container [token]).outcome w =
      ((readStep beh options container token.token).outcome w).map
        (·.mapError (.atToken token)) id := by
  rw [walk, outcome_bind, outcome_step]
  rcases (readStep beh options container token.token).outcome w with ⟨fault | v, w'⟩ <;> rfl

theorem map_mapError_eq_error_iff {α ε ε' : Type} {f : ε → ε'} {e' : ε'}
    {p : Except ε α × World Code Host} {w' : World Code Host} :
    p.map (·.mapError f) id = (.error e', w') ↔ ∃ e, p = (.error e, w') ∧ e' = f e := by
  constructor
  · rcases p with ⟨e | a, w₁⟩
    · intro failed
      cases failed
      exact ⟨e, rfl, rfl⟩
    · exact nofun
  · rintro ⟨e, rfl, rfl⟩
    rfl

/-! ## 2. Failures -/

/-- If some token cannot be read, then it is one that is arrived at. -/
theorem unread_of_follows {e : AccessError} {log : List LogRecord}
    (follows : Follows beh options root w tokens ⟨.error e, w', log⟩) :
    ∃ container token later w₁ fault,
      Arrives beh options root tokens w container token later w₁ ∧
      (readStep beh options container token.token).outcome w₁ = (.error fault, w') ∧
      e = .atToken token fault := by
  obtain ⟨earlier, token, later, container, w₁, _, fault, _, whole, once, unread, same, -⟩ :=
    follows.error_cases
  exact ⟨container, token, later, w₁, fault, once.arrives whole, outcome_of_run unread, same⟩

/-- Reading fails at a malformed segment, or at a token that is arrived at and cannot be read. -/
theorem walk_error_cases {malformed : Option ParseError} {e : AccessError}
    (failed : (walk beh options malformed root tokens).outcome w = (.error e, w')) :
    (∃ p, malformed = some p ∧ e = .ofParse p) ∨
      ∃ container token later w₁ fault,
        Arrives beh options root tokens w container token later w₁ ∧
        (readStep beh options container token.token).outcome w₁ = (.error fault, w') ∧
        e = .atToken token fault := by
  rw [walk_eq_walk_then] at failed
  obtain ⟨log, ran⟩ := run_of_outcome failed
  rcases run_error_cases ran with follows |
    ⟨reached, ⟨p, rfl, rfl, -⟩ | ⟨_, _, _, -, -, ends, -⟩⟩
  · exact .inr (unread_of_follows follows)
  · exact .inl ⟨p, rfl, rfl⟩
  · cases ends

/-- Setting fails at a malformed segment, at a token before the last that cannot be read, or at the
last token, which cannot be written. The empty path cannot be set. -/
theorem set_error_cases {path : String} {v : Value} {e : AccessError}
    (failed : (set beh options root path v).outcome w = (.error e, w')) :
    (∃ p, (scanPath path).error = some p ∧ e = .ofParse p) ∨
      ((scanPath path).tokens = [] ∧ e = .wholePath (.notWritable .root path)) ∨
      (∃ container token later w₁ fault, later ≠ [] ∧
        Arrives beh options root (scanPath path).tokens w container token later w₁ ∧
        (readStep beh options container token.token).outcome w₁ = (.error fault, w') ∧
        e = .atToken token fault) ∨
      ∃ container token w₁ fault,
        Arrives beh options root (scanPath path).tokens w container token [] w₁ ∧
        (DeferredWrite.apply beh ⟨container, token.token⟩ v).outcome w₁ = (.error fault, w') ∧
        e = .atToken token fault := by
  obtain ⟨log, ran⟩ := run_of_outcome failed
  obtain ⟨steps, -, ⟨front, last, whole, follows⟩ |
    ⟨front, last, reached, w₁, _, _, whole, follows, ends, -⟩ | ⟨_, p, malformed, rfl, -⟩ |
    ⟨empty, -, rfl, -, -⟩⟩ := run_set_error ran
  · obtain ⟨container, token, later, w₁, fault, ⟨earlier, rfl, reached⟩, unread, same⟩ :=
      unread_of_follows follows
    rw [List.append_assoc, List.cons_append] at whole
    exact .inr (.inr (.inl ⟨container, token, later ++ [last], w₁, fault, by simp,
      ⟨earlier, whole, reached⟩, unread, same⟩))
  · have unwritten := outcome_of_run ends
    rw [outcome_writeLast, map_mapError_eq_error_iff] at unwritten
    obtain ⟨fault, unwritten, rfl⟩ := unwritten
    exact .inr (.inr (.inr ⟨reached, last, w₁, fault, follows.arrives whole, unwritten, rfl⟩))
  · exact .inl ⟨p, malformed, rfl⟩
  · exact .inr (.inl ⟨empty, rfl⟩)

/-! ## 3. Tokens at fault -/

section

variable {path : String} {fault : AccessFault} {w₁ : World Code Host}

/-- A token that is arrived at and cannot be read ends the reading of the path. -/
theorem outcome_getValue_of_arrives
    (arrives : Arrives beh options root (scanPath path).tokens w container token later w₁)
    (failed : (readStep beh options container token.token).outcome w₁ = (.error fault, w')) :
    (getValue beh options root path).outcome w = (.error (.atToken token fault), w') := by
  obtain ⟨front, split, reached⟩ := arrives
  rw [outcome_getValue, split, walk_append, reached]
  simp only [walk, outcome_bind, outcome_step, failed]
  rfl

/-- And so it does when the path is set, unless it is the last token, which is not read. -/
theorem outcome_set_of_arrives {v : Value}
    (arrives : Arrives beh options root (scanPath path).tokens w container token later w₁)
    (more : later ≠ [])
    (failed : (readStep beh options container token.token).outcome w₁ = (.error fault, w')) :
    (set beh options root path v).outcome w = (.error (.atToken token fault), w') := by
  obtain ⟨front, split, reached⟩ := arrives
  obtain ⟨next, later, rfl⟩ := List.exists_cons_of_ne_nil more
  rw [outcome_set_of_tokens beh options split, reached]
  simp only [write, outcome_bind, outcome_step, failed]
  rfl

/-- If the last token cannot be written, the path is not set. A malformed segment behind the token
is reported first. -/
theorem set_error_of_arrives {v : Value}
    (arrives : Arrives beh options root (scanPath path).tokens w container token [] w')
    (failed : (DeferredWrite.apply beh ⟨container, token.token⟩ v).outcome w' =
      (.error fault, w')) :
    ∃ e, (set beh options root path v).outcome w = (.error e, w') ∧
      (e = .atToken token fault ∨ ∃ p, e = .ofParse p) := by
  obtain ⟨front, split, reached⟩ := arrives
  rw [outcome_set_of_tokens beh options split, reached]
  cases (scanPath path).error with
  | none =>
    refine ⟨.atToken token fault, ?_, .inl rfl⟩
    simp only [write, outcome_writeLast, failed]
    rfl
  | some p => exact ⟨.ofParse p, rfl, .inr ⟨p, rfl⟩⟩

end

end PathAccess

end ObjectGraph
