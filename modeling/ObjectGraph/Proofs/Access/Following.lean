import ObjectGraph.Proofs.Access.Composition

/-!
# What a call does step by step

A call that follows a path reads some of its tokens one after the other, each on the value that the
token before it has given, and stops at the first that cannot be read. What happens then is all that
calls differ in. `getValue` has read all tokens and is done; `set` has left out the last one and
writes it. Where a malformed segment follows the tokens, both report it instead, and `set` has
still left out the last token.

1. `Follows`: reading tokens, each of them once, with the records that this leaves;
   `follows_iff_run_walk`: it is what the loop does;
2. `getValue_eq_walk_then`, `set_eq_walk_then`: what either call does after reading;
3. `run_getValue_error`, `run_set_error`: how they fail.
-/

namespace ObjectGraph

open ObjectGraph.Action

variable {Code Host α : Type}

namespace PathAccess

variable {beh : Behaviour Code Host} {options : AccessOptions}

/-! ## 1. Reading tokens in order -/

/-- `Follows beh options root w tokens run`: reading `tokens` from `root` on, in the world `w`, is
`run`. Each token is read once, and none behind one that cannot be read. -/
inductive Follows (beh : Behaviour Code Host) (options : AccessOptions) :
    Value → World Code Host → List OffsetToken → Run Code Host (Except AccessError Value) → Prop
  | arrived {root : Value} {w : World Code Host} : Follows beh options root w [] ⟨.ok root, w, []⟩
  | stuck {root : Value} {w w' : World Code Host} {token : OffsetToken} {later : List OffsetToken}
      {fault : AccessFault} {log : List LogRecord} :
      (readStep beh options root token.token).run w = ⟨.error fault, w', log⟩ →
      Follows beh options root w (token :: later) ⟨.error (.atToken token fault), w', log⟩
  | step {root next : Value} {w w₁ : World Code Host} {token : OffsetToken}
      {later : List OffsetToken} {log : List LogRecord}
      {run : Run Code Host (Except AccessError Value)} :
      (readStep beh options root token.token).run w = ⟨.ok next, w₁, log⟩ →
      Follows beh options next w₁ later run →
      Follows beh options root w (token :: later)
        { run with log := log ++ .step token.token next.tag :: run.log }

section

variable {root : Value} {w : World Code Host} {tokens : List OffsetToken}
  {run : Run Code Host (Except AccessError Value)}

/-- Reading a token and those behind it, by what the token gives. -/
theorem run_walk_cons (beh : Behaviour Code Host) (options : AccessOptions) (root : Value)
    (token : OffsetToken) (later : List OffsetToken) (w : World Code Host) :
    (walk beh options none root (token :: later)).run w =
      match (readStep beh options root token.token).run w with
      | ⟨.error fault, w', log⟩ => ⟨.error (.atToken token fault), w', log⟩
      | ⟨.ok next, w₁, log⟩ =>
        let rest := (walk beh options none next later).run w₁
        { rest with log := log ++ .step token.token next.tag :: rest.log } := by
  rw [walk, step, run_bind, run_bind]
  rcases (readStep beh options root token.token).run w with ⟨fault | next, w₁, log⟩
  · simp
  · simp

theorem Follows.run_walk (follows : Follows beh options root w tokens run) :
    (walk beh options none root tokens).run w = run := by
  induction follows with
  | arrived => rfl
  | stuck read => rw [run_walk_cons, read]
  | step read _ ih => rw [run_walk_cons, read, ← ih]

theorem follows_walk (beh : Behaviour Code Host) (options : AccessOptions) (root : Value)
    (tokens : List OffsetToken) (w : World Code Host) :
    Follows beh options root w tokens ((walk beh options none root tokens).run w) := by
  induction tokens generalizing root w with
  | nil => exact .arrived
  | cons token later ih =>
    rw [run_walk_cons]
    rcases read : (readStep beh options root token.token).run w with ⟨fault | next, w₁, log⟩
    · exact .stuck read
    · exact .step read (ih next w₁)

/-- Reading tokens in order is the loop. -/
theorem follows_iff_run_walk :
    Follows beh options root w tokens run ↔ (walk beh options none root tokens).run w = run :=
  ⟨Follows.run_walk, fun same => same ▸ follows_walk beh options root tokens w⟩

/-- If the tokens are not all read, then those before some token have been, and that token could
not be. -/
theorem Follows.error_cases {e : AccessError} {w' : World Code Host} {log : List LogRecord}
    (follows : Follows beh options root w tokens ⟨.error e, w', log⟩) :
    ∃ earlier token later container w₁ log₁ fault log₂, tokens = earlier ++ token :: later ∧
      Follows beh options root w earlier ⟨.ok container, w₁, log₁⟩ ∧
      (readStep beh options container token.token).run w₁ = ⟨.error fault, w', log₂⟩ ∧
      e = .atToken token fault ∧ log = log₁ ++ log₂ := by
  generalize failed : (⟨.error e, w', log⟩ : Run Code Host (Except AccessError Value)) = run
    at follows
  induction follows generalizing log with
  | arrived => cases failed
  | @stuck root w _ token later fault _ unread =>
    cases failed
    exact ⟨[], token, later, root, w, [], fault, _, rfl, .arrived, unread, rfl, rfl⟩
  | @step root next w w₁ first later front run read _ ih =>
    obtain ⟨result, world, records⟩ := run
    cases failed
    obtain ⟨earlier, token, later, container, w₂, log₁, fault, log₂, rfl, follows, unread, rfl,
      rfl⟩ := ih rfl
    refine ⟨first :: earlier, token, later, container, w₂, _, fault, log₂, rfl,
      .step read follows, unread, rfl, ?_⟩
    simp

end

/-! ## 2. Both calls -/

/-- What a call does after it has read its tokens: it reports the first failure, or the malformed
segment behind the tokens, or it goes on to its end. -/
def afterReading (malformed : Option ParseError)
    (finish : Value → Action Code Host (Except AccessError α)) :
    Except AccessError Value → Action Code Host (Except AccessError α)
  | .error e => pure (.error e)
  | .ok reached =>
    match malformed with
    | some e => pure (.error (.ofParse e))
    | none => finish reached

theorem walk_eq_walk_then (beh : Behaviour Code Host) (options : AccessOptions)
    (malformed : Option ParseError) (root : Value) (tokens : List OffsetToken) :
    walk beh options malformed root tokens =
      walk beh options none root tokens >>= afterReading malformed fun v => pure (.ok v) := by
  induction tokens generalizing root with
  | nil => cases malformed <;> rfl
  | cons token later ih =>
    simp only [walk, bind_assoc]
    refine bind_congr fun stepped => ?_
    cases stepped with
    | error e => rfl
    | ok next => exact ih next

theorem write_eq_walk_then (beh : Behaviour Code Host) (options : AccessOptions)
    (malformed : Option ParseError) (v root : Value) {first last : OffsetToken}
    {tokens front : List OffsetToken} (whole : first :: tokens = front ++ [last]) :
    write beh options malformed v first root tokens =
      walk beh options none root front >>=
        afterReading malformed fun reached => writeLast beh reached last v := by
  induction tokens generalizing first root front with
  | nil =>
    rcases List.cons_eq_append_iff.1 whole with ⟨rfl, alone⟩ | ⟨_, -, nothing⟩
    · cases alone
      cases malformed <;> rfl
    · simp at nothing
  | cons second tokens ih =>
    rcases List.cons_eq_append_iff.1 whole with ⟨-, alone⟩ | ⟨front, rfl, behind⟩
    · simp at alone
    simp only [write, walk, bind_assoc]
    refine bind_congr fun stepped => ?_
    cases stepped with
    | error e => rfl
    | ok next => exact ih next behind

/-- Getting a value reads all tokens. -/
theorem getValue_eq_walk_then (beh : Behaviour Code Host) (options : AccessOptions) (root : Value)
    (path : String) :
    getValue beh options root path =
      recordFailure (.readFailed path) (walk beh options none root (scanPath path).tokens >>=
        afterReading (scanPath path).error fun v => pure (.ok v)) :=
  congrArg (recordFailure _) (walk_eq_walk_then ..)

/-- Setting it reads all tokens but the last. -/
theorem set_eq_walk_then (beh : Behaviour Code Host) (options : AccessOptions) (root v : Value)
    {path : String} {front : List OffsetToken} {last : OffsetToken}
    (whole : (scanPath path).tokens = front ++ [last]) :
    set beh options root path v =
      recordFailure (.writeFailed path) (walk beh options none root front >>=
        afterReading (scanPath path).error fun reached => writeLast beh reached last v) := by
  rw [set]
  rcases tokens : (scanPath path).tokens with _ | ⟨first, later⟩
  · simp [tokens] at whole
  · rw [tokens] at whole
    exact congrArg (recordFailure _) (write_eq_walk_then beh options _ v root whole)

/-! ## 3. Failures -/

section

variable {root : Value} {path : String} {w w' : World Code Host} {e : AccessError}

/-- A call that is recorded fails as it does by itself, and then leaves its record. -/
theorem run_recordFailure_error {failed : AccessError → LogRecord}
    {call : Action Code Host (Except AccessError α)} {log : List LogRecord}
    (ran : (recordFailure failed call).run w = ⟨.error e, w', log⟩) :
    ∃ steps, log = steps ++ [failed e] ∧ call.run w = ⟨.error e, w', steps⟩ := by
  rw [recordFailure, run_bind] at ran
  rcases called : call.run w with ⟨e' | a, w₁, steps⟩
  · rw [called] at ran
    cases ran
    exact ⟨steps, rfl, rfl⟩
  · rw [called] at ran
    cases ran

/-- A call that reads some tokens fails at one of them, or at the malformed segment behind them, or
in what it does then. -/
theorem run_error_cases {malformed : Option ParseError} {tokens : List OffsetToken}
    {finish : Value → Action Code Host (Except AccessError α)} {steps : List LogRecord}
    (ran : (walk beh options none root tokens >>= afterReading malformed finish).run w =
      ⟨.error e, w', steps⟩) :
    Follows beh options root w tokens ⟨.error e, w', steps⟩ ∨
      ∃ reached,
        (∃ p, malformed = some p ∧ e = .ofParse p ∧
          Follows beh options root w tokens ⟨.ok reached, w', steps⟩) ∨
        ∃ w₁ log₁ log₂, malformed = none ∧
          Follows beh options root w tokens ⟨.ok reached, w₁, log₁⟩ ∧
          (finish reached).run w₁ = ⟨.error e, w', log₂⟩ ∧ steps = log₁ ++ log₂ := by
  have follows := follows_walk beh options root tokens w
  rw [run_bind] at ran
  rcases read : (walk beh options none root tokens).run w with ⟨e' | reached, w₁, log₁⟩ <;>
    rw [read] at ran follows
  · simp only [afterReading, run_pure, List.append_nil] at ran
    cases ran
    exact .inl follows
  refine .inr ⟨reached, ?_⟩
  cases malformed with
  | some p =>
    simp only [afterReading, run_pure, List.append_nil] at ran
    cases ran
    exact .inl ⟨p, rfl, rfl, follows⟩
  | none =>
    rcases finished : (finish reached).run w₁ with ⟨result, w₂, log₂⟩
    simp only [afterReading, finished] at ran
    cases ran
    exact .inr ⟨w₁, log₁, log₂, rfl, follows, finished, rfl⟩

/-- Setting fails at a token before the last that cannot be read, at the last token, which cannot be
written, or at the malformed segment when all tokens but the last have been read. The empty path
cannot be set. -/
theorem run_set_error {v : Value} {log : List LogRecord}
    (ran : (set beh options root path v).run w = ⟨.error e, w', log⟩) :
    ∃ steps, log = steps ++ [.writeFailed path e] ∧
      ((∃ front last, (scanPath path).tokens = front ++ [last] ∧
          Follows beh options root w front ⟨.error e, w', steps⟩) ∨
        (∃ front last reached w₁ log₁ log₂, (scanPath path).tokens = front ++ [last] ∧
          Follows beh options root w front ⟨.ok reached, w₁, log₁⟩ ∧
          (writeLast beh reached last v).run w₁ = ⟨.error e, w', log₂⟩ ∧ steps = log₁ ++ log₂) ∨
        (∃ reached p, (scanPath path).error = some p ∧ e = .ofParse p ∧
          Follows beh options root w (scanPath path).tokens.dropLast ⟨.ok reached, w', steps⟩) ∨
        (scanPath path).tokens = [] ∧ (scanPath path).error = none ∧
          e = .wholePath (.notWritable .root path) ∧ w' = w ∧ steps = []) := by
  rcases List.eq_nil_or_concat (scanPath path).tokens with empty | ⟨front, last, whole⟩
  · rw [set, empty] at ran
    obtain ⟨steps, rfl, failed⟩ := run_recordFailure_error ran
    refine ⟨steps, rfl, ?_⟩
    rw [empty]
    cases malformed : (scanPath path).error with
    | some p =>
      rw [malformed] at failed
      cases failed
      exact .inr (.inr (.inl ⟨root, p, rfl, rfl, .arrived⟩))
    | none =>
      rw [malformed] at failed
      cases failed
      exact .inr (.inr (.inr ⟨rfl, rfl, rfl, rfl, rfl⟩))
  rw [List.concat_eq_append] at whole
  rw [set_eq_walk_then beh options root v whole] at ran
  obtain ⟨steps, rfl, failed⟩ := run_recordFailure_error ran
  refine ⟨steps, rfl, ?_⟩
  rcases run_error_cases failed with follows |
    ⟨reached, ⟨p, malformed, rfl, follows⟩ | ⟨w₁, log₁, log₂, -, follows, ends, rfl⟩⟩
  · exact .inl ⟨front, last, whole, follows⟩
  · rw [whole, List.dropLast_concat]
    exact .inr (.inr (.inl ⟨reached, p, malformed, rfl, follows⟩))
  · exact .inr (.inl ⟨front, last, reached, w₁, log₁, log₂, whole, follows, ends, rfl⟩)

end

end PathAccess

end ObjectGraph
