import ObjectGraph.Proofs.Access.Arrival
import ObjectGraph.Proofs.Access.Faults

/-!
# Denying method calls

Options that deny method calls only cut a call short. The call does what it would do otherwise, up
to the first method that it would read, and ends there. No token is denied but one that is read: a
method at the end of a path that is set is not writable, whatever the options are.

That a call runs no method is stated by changing what methods do: the call stays the same, its log
records included.

1. `run_walk_withMethods`, `run_write_withMethods`: without a denial the options do not matter;
2. `denied_of_getValue`, `denied_of_set`: where a call is denied;
3. `GettersQuiet`: if the getters that are met change nothing, nothing but a setter does;
4. `Restricts`, `deny_restricts_invoke`: the whole.
-/

namespace ObjectGraph

open ObjectGraph.Action

variable {Code Host α : Type}

/-- The same code, but for the methods. -/
def Behaviour.withMethods (beh : Behaviour Code Host)
    (method : Code → Option Value → Action Code Host Value) : Behaviour Code Host :=
  { beh with method }

/-- A method would have been called. -/
def AccessError.IsDenial (e : AccessError) : Prop := ∃ name, e.fault = .methodCallDenied name

/-- The call has ended because a method would have been called. -/
def IsDenied (result : Except AccessError α) : Prop := ∃ e, result = .error e ∧ e.IsDenial

@[simp] theorem isDenied_error {e : AccessError} :
    IsDenied (.error e : Except AccessError α) ↔ e.IsDenial := by
  simp [IsDenied]

@[simp] theorem not_isDenied_ok (a : α) : ¬ IsDenied (.ok a) := by
  rintro ⟨e, ⟨⟩, _⟩

namespace PathAccess

variable {beh : Behaviour Code Host} {options : AccessOptions}

/-! ## 1. Calls that are not denied -/

section

variable (method : Code → Option Value → Action Code Host Value) (malformed : Option ParseError)

/-- A step that is not denied runs no method, and is the same whatever the options are. -/
theorem run_step_withMethods {container : Value} {token : OffsetToken} {w : World Code Host}
    (same : options = .sideEffectFree ∨
      ¬ IsDenied ((step beh .sideEffectFree container token).run w).result) :
    (step (beh.withMethods method) options container token).run w =
      (step beh .sideEffectFree container token).run w := by
  have read : (readStep (beh.withMethods method) options container token.token).run w =
      (readStep beh .sideEffectFree container token.token).run w := by
    refine run_readStep_congr (fun _ _ _ _ _ _ => rfl) fun name member call named content => ?_
    rcases same with rfl | undenied
    · exact ⟨rfl, nofun⟩
    · have denied := outcome_step beh .sideEffectFree container token w
      rw [outcome_readStep_method beh .sideEffectFree named content] at denied
      exact (undenied ⟨_, congrArg Prod.fst denied, name, rfl⟩).elim
  simp only [step, run_bind, read]

/-- The same for reading tokens one after the other. -/
theorem run_walk_withMethods {tokens : List OffsetToken} {current : Value} {w : World Code Host}
    (same : options = .sideEffectFree ∨
      ¬ IsDenied ((walk beh .sideEffectFree malformed current tokens).run w).result) :
    (walk (beh.withMethods method) options malformed current tokens).run w =
      (walk beh .sideEffectFree malformed current tokens).run w := by
  induction tokens generalizing current w with
  | nil => rfl
  | cons token tokens ih =>
    rw [walk, walk, run_bind, run_bind]
    rw [walk, run_bind] at same
    rcases stepped : (step beh .sideEffectFree current token).run w with ⟨e | next, w₁, log⟩
    · rw [stepped] at same
      rw [run_step_withMethods method (by simpa [stepped] using same), stepped]
    · rw [stepped] at same
      rw [run_step_withMethods method (.inr (by simp [stepped])), stepped]
      simp only [ih same]

/-- The same for writing: the last token is never denied. -/
theorem run_write_withMethods {v : Value} {first : OffsetToken} {tokens : List OffsetToken}
    {current : Value} {w : World Code Host}
    (same : options = .sideEffectFree ∨
      ¬ IsDenied ((write beh .sideEffectFree malformed v first current tokens).run w).result) :
    (write (beh.withMethods method) options malformed v first current tokens).run w =
      (write beh .sideEffectFree malformed v first current tokens).run w := by
  induction tokens generalizing first current w with
  | nil => cases malformed <;> rfl
  | cons second tokens ih =>
    rw [write, write, run_bind, run_bind]
    rw [write, run_bind] at same
    rcases stepped : (step beh .sideEffectFree current first).run w with ⟨e | next, w₁, log⟩
    · rw [stepped] at same
      rw [run_step_withMethods method (by simpa [stepped] using same), stepped]
    · rw [stepped] at same
      rw [run_step_withMethods method (.inr (by simp [stepped])), stepped]
      simp only [ih same]

end

/-! ## 2. Calls that are denied -/

/-- A token that is denied names a method, and nothing has been changed. -/
theorem denied_of_readStep {container : Value} {token : Token} {fault : AccessFault} {name : String}
    {w w' : World Code Host}
    (failed : (readStep beh options container token).outcome w = (.error fault, w'))
    (denial : fault = .methodCallDenied name) :
    w' = w ∧
      ∃ member call, w.Names container token name member ∧ member.content = .method call := by
  subst denial
  obtain ⟨rfl, cause⟩ := readStep_error failed
  refine ⟨rfl, ?_⟩
  generalize denial : AccessFault.methodCallDenied name = fault at cause
  cases cause with
  | unknown _ unresolved =>
    rw [resolveOn_error unresolved] at denial
    cases denial
  | denied _ named content =>
    cases denial
    exact ⟨_, _, named, content⟩
  | _ => cases denial

/-- No write is denied. -/
theorem not_denied_of_apply {container v : Value} {token : Token} {fault : AccessFault}
    {w w' : World Code Host}
    (failed : (DeferredWrite.apply beh ⟨container, token⟩ v).outcome w = (.error fault, w'))
    (name : String) : fault ≠ .methodCallDenied name := by
  rintro rfl
  rcases DeferredWrite.apply_error failed with ⟨-, cause⟩ | ⟨e, ⟨⟩⟩
  generalize denial : AccessFault.methodCallDenied name = fault at cause
  cases cause with
  | unknown _ unresolved =>
    rw [resolveOn_error unresolved] at denial
    cases denial
  | _ => cases denial

/-- The call is denied at the token, which would call the method that it names on the container. The
tokens before it have led there and to the world `w'`, and allowing methods makes no difference to
them. -/
structure DeniedAt (beh : Behaviour Code Host) (root : Value) (reads : List OffsetToken)
    (w : World Code Host) (e : AccessError) (front : List OffsetToken) (token : OffsetToken)
    (container : Value) (member : Member Code) (call : Code) (w' : World Code Host) : Prop where
  read : front ++ [token] <+: reads
  reached : (walk beh .sideEffectFree none root front).outcome w = (.ok container, w')
  same : ∀ method, (walk (beh.withMethods method) {} none root front).run w =
    (walk beh .sideEffectFree none root front).run w
  named : ∃ name, e = .atToken token (.methodCallDenied name) ∧
    w'.Names container token.token name member
  content : member.content = .method call

section

variable {root container : Value} {reads front : List OffsetToken} {token : OffsetToken}
  {member : Member Code} {call : Code} {e : AccessError} {w w' : World Code Host}

theorem deniedAt_of_readStep {fault : AccessFault} {w₁ : World Code Host}
    (read : front ++ [token] <+: reads)
    (reached : (walk beh .sideEffectFree none root front).outcome w = (.ok container, w₁))
    (failed : (readStep beh .sideEffectFree container token.token).outcome w₁ = (.error fault, w'))
    (blamed : e = .atToken token fault) (denial : e.IsDenial) :
    ∃ member call, DeniedAt beh root reads w e front token container member call w' := by
  obtain ⟨name, denied⟩ := denial
  rw [blamed] at denied
  obtain ⟨rfl, member, call, named, content⟩ := denied_of_readStep failed denied
  have undenied : ¬ IsDenied ((walk beh .sideEffectFree none root front).run w).result := by
    have result : ((walk beh .sideEffectFree none root front).run w).result = .ok container :=
      congrArg Prod.fst reached
    exact result ▸ not_isDenied_ok container
  refine ⟨member, call, read, reached, fun method => ?_, ⟨name, ?_, named⟩, content⟩
  · exact run_walk_withMethods method none (.inr undenied)
  · rw [blamed]
    exact congrArg (AccessError.atToken token) denied

/-- A call that would be denied calls the method, in the world in which the denied call ends. -/
theorem DeniedAt.outcome_step (denied : DeniedAt beh root reads w e front token container member
    call w') (method : Code → Option Value → Action Code Host Value) :
    (step (beh.withMethods method) {} container token).outcome w' =
      ((method call (member.receiver? container)).outcome w').map .ok id := by
  obtain ⟨name, -, named⟩ := denied.named
  rw [PathAccess.outcome_step, outcome_readStep_method _ _ named denied.content]
  rfl

/-- Reading is denied at one of the tokens. -/
theorem denied_of_getValue {path : String}
    (failed : (getValue beh .sideEffectFree root path).outcome w = (.error e, w'))
    (denial : e.IsDenial) :
    ∃ front token later container member call,
      (scanPath path).tokens = front ++ token :: later ∧
      DeniedAt beh root (scanPath path).tokens w e front token container member call w' := by
  rw [outcome_getValue] at failed
  rcases walk_error_cases failed with ⟨p, -, rfl⟩ |
    ⟨container, token, later, w₁, fault, ⟨front, split, reached⟩, unread, blamed⟩
  · obtain ⟨name, ⟨⟩⟩ := denial
  · have upTo : front ++ [token] <+: (scanPath path).tokens := ⟨later, by simp [split]⟩
    obtain ⟨member, call, denied⟩ := deniedAt_of_readStep upTo reached unread blamed denial
    exact ⟨front, token, later, container, member, call, split, denied⟩

/-- Writing is denied at one of the tokens before the last. -/
theorem denied_of_set {path : String} {v : Value}
    (failed : (set beh .sideEffectFree root path v).outcome w = (.error e, w'))
    (denial : e.IsDenial) :
    ∃ front token next later container member call,
      (scanPath path).tokens = front ++ token :: next :: later ∧
      DeniedAt beh root (scanPath path).tokens.dropLast w e front token container member call
        w' := by
  rcases set_error_cases failed with ⟨p, -, rfl⟩ | ⟨-, rfl⟩ |
    ⟨container, token, later, w₁, fault, more, ⟨front, split, reached⟩, unread, blamed⟩ |
    ⟨container, token, w₁, fault, -, unwritten, rfl⟩
  · obtain ⟨name, ⟨⟩⟩ := denial
  · obtain ⟨name, ⟨⟩⟩ := denial
  · obtain ⟨next, later, rfl⟩ := List.exists_cons_of_ne_nil more
    have read : front ++ [token] <+: (scanPath path).tokens.dropLast :=
      ⟨(next :: later).dropLast, by simp [split, List.dropLast_append_of_ne_nil]⟩
    obtain ⟨member, call, denied⟩ := deniedAt_of_readStep read reached unread blamed denial
    exact ⟨front, token, next, later, container, member, call, split, denied⟩
  · obtain ⟨name, denied⟩ := denial
    exact absurd denied (not_denied_of_apply unwritten name)

end

/-! ## 3. Getters that change nothing -/

/-- Each getter that is run while the tokens are read leaves the world as it was. -/
def GettersQuiet (beh : Behaviour Code Host) (root : Value) (tokens : List OffsetToken)
    (w : World Code Host) : Prop :=
  ∀ container token later w' name member getter setter,
    Arrives beh .sideEffectFree root tokens w container token later w' →
    w'.Names container token.token name member → member.content = .property getter setter →
    ((beh.getter getter (member.receiver? container)).outcome w').2 = w'

section

variable {root : Value} {tokens : List OffsetToken} {token : OffsetToken} {w w' : World Code Host}

/-- The first token is read without a change. -/
theorem GettersQuiet.first (quiet : GettersQuiet beh root (token :: tokens) w) :
    ((step beh .sideEffectFree root token).outcome w).2 = w := by
  rw [outcome_step]
  by_cases code : w.place root token.token = .code
  · obtain ⟨name, member, named, ⟨getter, setter, content⟩ | ⟨call, content⟩⟩ :=
      names_of_place_code code
    · rw [outcome_readStep_property beh _ named content]
      exact quiet root token tokens w name member getter setter arrives_first named content
    · rw [outcome_readStep_method beh _ named content]
      rfl
  · rw [outcome_readStep beh _ code]
    rfl

/-- The other tokens are read from the same world. -/
theorem GettersQuiet.after_step (quiet : GettersQuiet beh root (token :: tokens) w) {next : Value}
    (stepped : (step beh .sideEffectFree root token).outcome w = (.ok next, w')) :
    w' = w ∧ GettersQuiet beh next tokens w := by
  obtain rfl : w' = w := (congrArg Prod.snd stepped).symm.trans quiet.first
  refine ⟨rfl, fun container token' later w₂ name member getter setter arrives => ?_⟩
  exact quiet container token' later w₂ name member getter setter (arrives.after_step stepped)

theorem GettersQuiet.walk (quiet : GettersQuiet beh root tokens w)
    (malformed : Option ParseError) :
    ((walk beh .sideEffectFree malformed root tokens).outcome w).2 = w := by
  induction tokens generalizing root with
  | nil => cases malformed <;> rfl
  | cons token tokens ih =>
    rw [PathAccess.walk, outcome_bind]
    rcases stepped : (step beh .sideEffectFree root token).outcome w with ⟨e | next, w'⟩
    · exact (congrArg Prod.snd stepped).symm.trans quiet.first
    · obtain ⟨rfl, quiet'⟩ := quiet.after_step stepped
      exact ih quiet'

/-- A write that fails has changed nothing, unless its setter has failed. -/
theorem GettersQuiet.write {malformed : Option ParseError} {v : Value} {e : AccessError}
    (quiet : GettersQuiet beh root (token :: tokens).dropLast w)
    (failed : (write beh .sideEffectFree malformed v token root tokens).outcome w = (.error e, w'))
    (refused : ∀ s, e.fault ≠ .setterFailed s) : w' = w := by
  induction tokens generalizing token root with
  | nil =>
    cases malformed with
    | some p => exact (congrArg Prod.snd failed).symm
    | none =>
      rw [PathAccess.write, outcome_writeLast] at failed
      rcases applied : (DeferredWrite.apply beh ⟨root, token.token⟩ v).outcome w with
        ⟨fault | done, w₁⟩
      · rw [applied] at failed
        cases failed
        rcases DeferredWrite.apply_error applied with ⟨unchanged, -⟩ | ⟨s, rfl⟩
        · exact unchanged
        · exact absurd rfl (refused s)
      · rw [applied] at failed
        cases failed
  | cons second tokens ih =>
    rw [PathAccess.write, outcome_bind] at failed
    rw [List.dropLast_cons_cons] at quiet
    rcases stepped : (step beh .sideEffectFree root token).outcome w with ⟨e' | next, w₁⟩
    · rw [stepped] at failed
      cases failed
      exact (congrArg Prod.snd stepped).symm.trans quiet.first
    · obtain ⟨rfl, quiet'⟩ := quiet.after_step stepped
      rw [stepped] at failed
      exact ih quiet' failed

end

/-! ## 4. The two options -/

/-- What is left of a write once the tokens before `tokens` have been read. With no token left there
is nothing to write. -/
def writeRest (beh : Behaviour Code Host) (malformed : Option ParseError) (v : Value) :
    List OffsetToken → Value → Action Code Host (Except AccessError Unit)
  | [], _ => pure (.ok ())
  | next :: later, reached => write beh {} malformed v next reached later

/-- Of the two options the one that denies method calls restricts the other: the call that must not
call methods does not call them, and is the call that may call them, or is denied at a token that
it reads. There the other call runs the method, with the world as the denied call leaves it, and
goes on with `rest`. -/
structure Restricts
    (call : Behaviour Code Host → AccessOptions → Action Code Host (Except AccessError α))
    (rest : Behaviour Code Host → List OffsetToken → Value →
      Action Code Host (Except AccessError α))
    (beh : Behaviour Code Host) (root : Value) (tokens reads : List OffsetToken)
    (w : World Code Host) : Prop where
  uncalled : ∀ method,
    (call (beh.withMethods method) .sideEffectFree).run w = (call beh .sideEffectFree).run w
  same : ¬ IsDenied ((call beh .sideEffectFree).run w).result → ∀ method,
    (call (beh.withMethods method) {}).run w = (call beh .sideEffectFree).run w
  denied : ∀ e w', (call beh .sideEffectFree).outcome w = (.error e, w') → e.IsDenial →
    ∃ front token later container member code, tokens = front ++ token :: later ∧
      DeniedAt beh root reads w e front token container member code w' ∧
      ∀ method, (call (beh.withMethods method) {}).outcome w =
        (method code (member.receiver? container) >>=
          rest (beh.withMethods method) later).outcome w'

theorem restricts_getValue (beh : Behaviour Code Host) (root : Value) (path : String)
    (w : World Code Host) :
    Restricts (fun beh options => getValue beh options root path)
      (fun beh later reached => walk beh {} (scanPath path).error reached later) beh root
      (scanPath path).tokens (scanPath path).tokens w where
  uncalled method := run_recordFailure_congr (run_walk_withMethods method _ (.inl rfl))
  same undenied method := by
    rw [getValue, result_recordFailure] at undenied
    exact run_recordFailure_congr (run_walk_withMethods method _ (.inr undenied))
  denied e w' failed denial := by
    obtain ⟨front, token, later, container, member, call, split, denied⟩ :=
      denied_of_getValue failed denial
    refine ⟨front, token, later, container, member, call, split, denied, fun method => ?_⟩
    have reached : (walk (beh.withMethods method) {} none root front).outcome w =
        (.ok container, w') :=
      (congrArg (fun run => (run.result, run.world)) (denied.same method)).trans denied.reached
    rw [outcome_getValue, split, walk_append, reached]
    simp only [walk, outcome_bind, denied.outcome_step]
    rfl

theorem restricts_set (beh : Behaviour Code Host) (root : Value) (path : String) (v : Value)
    (w : World Code Host) :
    Restricts (fun beh options => set beh options root path v)
      (fun beh => writeRest beh (scanPath path).error v) beh root
      (scanPath path).tokens (scanPath path).tokens.dropLast w where
  uncalled method := by
    refine run_recordFailure_congr ?_
    cases (scanPath path).tokens with
    | nil => cases (scanPath path).error <;> rfl
    | cons first tokens => exact run_write_withMethods method _ (.inl rfl)
  same undenied method := by
    rw [set, result_recordFailure] at undenied
    refine run_recordFailure_congr ?_
    generalize (scanPath path).tokens = tokens at undenied ⊢
    cases tokens with
    | nil => cases (scanPath path).error <;> rfl
    | cons first tokens => exact run_write_withMethods method _ (.inr undenied)
  denied e w' failed denial := by
    obtain ⟨front, token, next, later, container, member, call, split, denied⟩ :=
      denied_of_set failed denial
    refine ⟨front, token, next :: later, container, member, call, split, denied, fun method => ?_⟩
    have reached : (walk (beh.withMethods method) {} none root front).outcome w =
        (.ok container, w') :=
      (congrArg (fun run => (run.result, run.world)) (denied.same method)).trans denied.reached
    rw [outcome_set_of_tokens _ _ split, reached]
    simp only [write, outcome_bind, denied.outcome_step]
    rfl

/-- Denying method calls restricts what a call does, whatever its path, and whatever code it runs.

If all getters that are met change nothing, then a call that reads without methods changes nothing,
and one that writes changes nothing if it fails, unless it is the setter that has failed. -/
theorem deny_restricts_invoke (beh : Behaviour Code Host) (root : Value) (path : String) (v : Value)
    (w : World Code Host) :
    Restricts (fun beh options => getValue beh options root path)
        (fun beh later reached => walk beh {} (scanPath path).error reached later) beh root
        (scanPath path).tokens (scanPath path).tokens w ∧
      Restricts (fun beh options => set beh options root path v)
        (fun beh => writeRest beh (scanPath path).error v) beh root
        (scanPath path).tokens (scanPath path).tokens.dropLast w ∧
      (GettersQuiet beh root (scanPath path).tokens w →
        ((getValue beh .sideEffectFree root path).outcome w).2 = w) ∧
      (GettersQuiet beh root (scanPath path).tokens.dropLast w → ∀ e w',
        (set beh .sideEffectFree root path v).outcome w = (.error e, w') →
        (∀ s, e.fault ≠ .setterFailed s) → w' = w) := by
  refine ⟨restricts_getValue beh root path w, restricts_set beh root path v w, fun quiet => ?_,
    fun quiet e w' failed refused => ?_⟩
  · rw [outcome_getValue]
    exact quiet.walk _
  · rw [set, outcome_recordFailure] at failed
    rcases tokens : (scanPath path).tokens with _ | ⟨first, later⟩
    · rw [tokens] at failed
      rcases malformed : (scanPath path).error with _ | p <;> rw [malformed] at failed <;>
        exact (congrArg Prod.snd failed).symm
    · rw [tokens] at failed quiet
      exact quiet.write failed refused

end PathAccess

end ObjectGraph
