import ObjectGraph.Proofs.Access.Borrows

/-!
# The log as a transcript

The records that a call leaves tell what it has done, as long as the code that it runs leaves none
of its own: the tokens that it has read, in order and with what they gave; then, if it has come to
its write, the place that it was about to write; then the failure of the whole call, if it failed.
A view that fails has left the record of a failure once, not once more for the value.

1. `log_readStep`, `log_apply`: only code leaves records in a step;
2. `Completed`, `log_walk`: the steps that are completed, and their records;
3. `log_getValue`, `log_get`, `log_set_of_reaches`, `log_set_of_not_reaches`: whole calls;
4. `tokenName`, `kindName`, `log_is_transcript`: the lines of the log, as they are written of tokens
   and values, and how many there are.
-/

namespace ObjectGraph

open ObjectGraph.Action

variable {Code Host α β : Type}

/-! ## 1. Records of a step -/

section

variable (w : World Code Host)

theorem log_withShared_pure (id : StorageId) (f : Array Value → α) :
    ((withShared id fun cells => pure (f cells)).run w).log = [] := by
  rw [run_withShared]
  cases (w.borrow id).share? <;> rfl

theorem log_withExclusive {id : StorageId} {body : Action Code Host α}
    (silent : ∀ w', (body.run w').log = []) : ((withExclusive id body).run w).log = [] := by
  rw [run_withExclusive]
  cases (w.borrow id).claim? with
  | none => rfl
  | some borrowed => exact silent _

theorem log_bind_of_nil {x : Action Code Host α} {f : α → Action Code Host β}
    (first : (x.run w).log = []) (second : ∀ a w', ((f a).run w').log = []) :
    ((x >>= f).run w).log = [] := by
  rw [run_bind, first, second]
  rfl

theorem log_ite {c : Prop} [Decidable c] {x y : Action Code Host α}
    (yes : c → (x.run w).log = []) (no : ¬ c → (y.run w).log = []) :
    ((if c then x else y).run w).log = [] := by
  split
  · next h => exact yes h
  · next h => exact no h

theorem log_readSlot (id : StorageId) (slot : Nat) : ((readSlot id slot).run w).log = [] := by
  refine log_bind_of_nil w (log_withShared_pure w id _) fun result w' => ?_
  cases result <;> rfl

theorem log_writeSlot (id : StorageId) (slot : Nat) (v : Value) :
    ((writeSlot id slot v).run w).log = [] := by
  refine log_bind_of_nil w (log_withExclusive w fun w' => ?_) fun result w' => ?_
  · exact log_bind_of_nil w' rfl fun size w' => log_ite w' (fun _ => rfl) fun _ => rfl
  · cases result <;> rfl

theorem log_elementAt (a : Address) (index : UInt64) : ((elementAt a index).run w).log = [] :=
  log_bind_of_nil w (log_withShared_pure w (.entity a) _) fun _ _ => rfl

theorem log_setElementAt (a : Address) (index : UInt64) (v : Value) :
    ((setElementAt a index v).run w).log = [] := by
  refine log_bind_of_nil w (log_withExclusive w fun w' => ?_) fun _ _ => rfl
  refine log_bind_of_nil w' rfl fun elements w' => ?_
  cases Cursor.seek elements index with
  | error e => rfl
  | ok c => exact log_ite w' (fun _ => rfl) fun _ => rfl

end

/-- The code that reading the token runs, if it runs any, leaves no records. -/
structure SilentlyRead (beh : Behaviour Code Host) (options : AccessOptions) (container : Value)
    (token : Token) (w : World Code Host) : Prop where
  getter : ∀ name member getter setter, w.Names container token name member →
    member.content = .property getter setter →
    ((beh.getter getter (member.receiver? container)).run w).log = []
  method : ∀ name member call, w.Names container token name member →
    member.content = .method call → options.methodCalls = .invoke →
    ((beh.method call (member.receiver? container)).run w).log = []

/-- The code that writing the token runs, if it runs any, leaves no records. -/
def SilentlyWritten (beh : Behaviour Code Host) (container : Value) (token : Token) (v : Value)
    (w : World Code Host) : Prop :=
  ∀ name member getter setter, w.Names container token name member →
    member.content = .property getter (some setter) →
    DeferredWrite.isObservable member container = true →
    ((beh.setter setter (member.receiver? container) v).run w).log = []

section

variable {beh : Behaviour Code Host} {options : AccessOptions} {container : Value} {token : Token}
  {w : World Code Host}

theorem log_readInstanceSlot (container : Value) (slot : Nat) (w : World Code Host) :
    ((readInstanceSlot container slot).run w).log = [] := by
  cases container with
  | object a => exact log_bind_of_nil w (log_readSlot w _ slot) fun _ _ => rfl
  | _ => rfl

theorem log_readStep (silent : SilentlyRead beh options container token w) :
    ((readStep beh options container token).run w).log = [] := by
  unfold readStep
  by_cases null : container.isNull = true
  · rw [if_pos null]
    rfl
  rw [if_neg null]
  cases token with
  | element index =>
    simp only [readElement]
    cases container.collection? with
    | none => rfl
    | some a => exact log_bind_of_nil w (log_elementAt w a index) fun _ _ => rfl
  | member name =>
    simp only [readMember, run_bind, run_getWorld, List.nil_append]
    rcases found : w.resolveOn container name with fault | ⟨owner, member⟩
    · rfl
    have named : w.Names container (.member name) name member := ⟨rfl, owner, found⟩
    rcases content : member.content with ⟨slot, kind⟩ | ⟨getter, setter⟩ | ⟨call⟩
    · simp only [content]
      exact log_ite w (fun _ => log_bind_of_nil w (log_readSlot w _ slot) fun _ _ => rfl)
        fun _ => log_readInstanceSlot container slot w
    · simp only [content]
      exact log_bind_of_nil w (silent.getter name member getter setter named content) fun _ _ => rfl
    · simp only [content]
      rcases calls : options.methodCalls with _ | _
      · exact log_bind_of_nil w (silent.method name member call named content calls) fun _ _ => rfl
      · rfl

theorem log_writeInstanceSlot (container : Value) (slot : Nat) (v : Value) (w : World Code Host) :
    ((DeferredWrite.writeInstanceSlot container slot v).run w).log = [] := by
  cases container with
  | object a => exact log_bind_of_nil w (log_writeSlot w _ slot v) fun _ _ => rfl
  | _ => rfl

theorem log_apply {v : Value} (silent : SilentlyWritten beh container token v w) :
    ((DeferredWrite.apply beh ⟨container, token⟩ v).run w).log = [] := by
  unfold DeferredWrite.apply
  by_cases null : container.isNull = true
  · rw [if_pos null]
    rfl
  rw [if_neg null]
  cases token with
  | element index =>
    simp only [DeferredWrite.writeElement]
    cases container.collection? with
    | none => rfl
    | some a => exact log_bind_of_nil w (log_setElementAt w a index v) fun _ _ => rfl
  | member name =>
    simp only [DeferredWrite.writeMember, run_bind, run_getWorld, List.nil_append]
    rcases found : w.resolveOn container name with fault | ⟨owner, member⟩
    · rfl
    have named : w.Names container (.member name) name member := ⟨rfl, owner, found⟩
    rcases content : member.content with ⟨slot, kind⟩ | ⟨getter, _ | setter⟩ | ⟨call⟩
    · simp only [content]
      refine log_ite w (fun _ => rfl) fun _ => log_ite w (fun _ => rfl) fun _ => ?_
      exact log_ite w (fun _ => log_bind_of_nil w (log_writeSlot w _ slot v) fun _ _ => rfl)
        fun _ => log_writeInstanceSlot container slot v w
    · simp only [content]
      rfl
    · simp only [content]
      refine log_ite w (fun _ => rfl) fun seen => ?_
      have observable : DeferredWrite.isObservable member container = true := by simpa using seen
      exact log_bind_of_nil w (silent name member getter setter named content observable)
        fun _ _ => rfl
    · simp only [content]
      rfl

end

namespace PathAccess

variable {beh : Behaviour Code Host} {options : AccessOptions}

/-! ## 2. Completed steps -/

/-- `done` are the steps that reading `tokens` from `root` on completes: tokens, in the order of the
path, with the values that they give. -/
structure Completed (beh : Behaviour Code Host) (options : AccessOptions) (root : Value)
    (tokens : List OffsetToken) (w : World Code Host) (done : List (OffsetToken × Value)) :
    Prop where
  /-- Reading up to a completed step gives its value. -/
  read : ∀ front token v later, done = front ++ (token, v) :: later →
    ∃ w', (walk beh options none root (front.map Prod.fst ++ [token])).outcome w = (.ok v, w')
  /-- The steps are all, or all before the first token that cannot be read. -/
  ended : done.map Prod.fst = tokens ∨
    ∃ token later e w', tokens = done.map Prod.fst ++ token :: later ∧
      (walk beh options none root (done.map Prod.fst ++ [token])).outcome w = (.error e, w')

/-- The code that is run while the tokens are read leaves no records. -/
def SilentReads (beh : Behaviour Code Host) (options : AccessOptions) (root : Value)
    (tokens : List OffsetToken) (w : World Code Host) : Prop :=
  ∀ container token later w', Arrives beh options root tokens w container token later w' →
    SilentlyRead beh options container token.token w'

/-- The record of a completed step. -/
def stepRecord (done : OffsetToken × Value) : LogRecord := .step done.1.token done.2.tag

section

variable {root next : Value} {token : OffsetToken} {tokens later : List OffsetToken}
  {w w₁ : World Code Host} {done : List (OffsetToken × Value)}

theorem SilentReads.first (silent : SilentReads beh options root (token :: later) w) :
    SilentlyRead beh options root token.token w :=
  silent root token later w arrives_first

theorem SilentReads.after_step (silent : SilentReads beh options root (token :: later) w)
    (stepped : (step beh options root token).outcome w = (.ok next, w₁)) :
    SilentReads beh options next later w₁ :=
  fun container token' later' w' arrives =>
    silent container token' later' w' (arrives.after_step stepped)

theorem outcome_walk_of_step
    (stepped : (step beh options root token).outcome w = (.ok next, w₁))
    (later : List OffsetToken) :
    (walk beh options none root (token :: later)).outcome w =
      (walk beh options none next later).outcome w₁ := by
  rw [walk, outcome_bind, stepped]

theorem Completed.cons (stepped : (step beh options root token).outcome w = (.ok next, w₁))
    (rest : Completed beh options next later w₁ done) :
    Completed beh options root (token :: later) w ((token, next) :: done) where
  read front token' v later' split := by
    rcases List.cons_eq_append_iff.1 split with ⟨rfl, same⟩ | ⟨front, rfl, same⟩
    · cases same
      exact ⟨w₁, (outcome_walk_of_step stepped []).trans rfl⟩
    · obtain ⟨w', walked⟩ := rest.read front token' v later' same
      exact ⟨w', (outcome_walk_of_step stepped _).trans walked⟩
  ended := by
    rcases rest.ended with all | ⟨token', later', e, w', split, failed⟩
    · exact .inl (congrArg (token :: ·) all)
    · refine .inr ⟨token', later', e, w', congrArg (token :: ·) split, ?_⟩
      exact (outcome_walk_of_step stepped _).trans failed

/-- If the tokens can be read, all steps are completed. -/
theorem Completed.all_of_ok (completed : Completed beh options root tokens w done) {v : Value}
    {w' : World Code Host} (read : (walk beh options none root tokens).outcome w = (.ok v, w')) :
    done.map Prod.fst = tokens := by
  rcases completed.ended with all | ⟨token, later, e, w₁, rfl, failed⟩
  · exact all
  · rw [← List.singleton_append, ← List.append_assoc, walk_append, failed] at read
    cases read

/-- Reading tokens leaves the records of the steps that it completes. -/
theorem log_walk (silent : SilentReads beh options root tokens w) :
    ∃ done, Completed beh options root tokens w done ∧
      ((walk beh options none root tokens).run w).log = done.map stepRecord := by
  -- The code behind a step is run where the step has led, so the hypothesis moves on with the root
  -- and the world.
  induction tokens generalizing root w with
  | nil => exact ⟨[], ⟨by simp, .inl rfl⟩, rfl⟩
  | cons token later ih =>
    have unlogged := log_readStep silent.first
    rw [run_walk_cons]
    rcases read : (readStep beh options root token.token).run w with ⟨fault | next, w₁, log⟩
    · obtain rfl : log = [] := by rwa [read] at unlogged
      refine ⟨[], ⟨by simp, .inr ⟨token, later, .atToken token fault, w₁, rfl, ?_⟩⟩, rfl⟩
      show (walk beh options none root [token]).outcome w = _
      rw [outcome_walk_singleton, outcome_of_run read]
      rfl
    · obtain rfl : log = [] := by rwa [read] at unlogged
      have stepped : (step beh options root token).outcome w = (.ok next, w₁) := by
        rw [outcome_step, outcome_of_run read]
        rfl
      obtain ⟨done, completed, logged⟩ := ih (silent.after_step stepped)
      refine ⟨(token, next) :: done, completed.cons stepped, ?_⟩
      simp only [List.nil_append, logged]
      rfl

end

/-! ## 3. Whole calls -/

/-- The record of a call, if it failed. -/
def failureRecord (failed : AccessError → LogRecord) : Except AccessError α → List LogRecord
  | .ok _ => []
  | .error e => [failed e]

theorem log_recordFailure (failed : AccessError → LogRecord)
    (call : Action Code Host (Except AccessError α)) (w : World Code Host) :
    ((recordFailure failed call).run w).log =
      (call.run w).log ++ failureRecord failed ((recordFailure failed call).run w).result := by
  rw [recordFailure, run_bind]
  rcases (call.run w).result with e | a <;> rfl

/-- The call comes to its write: `last` is about to be written into the container. -/
def ReachesWrite (beh : Behaviour Code Host) (options : AccessOptions) (root : Value)
    (path : String) (w : World Code Host) (last : OffsetToken) (container : Value)
    (w' : World Code Host) : Prop :=
  (scanPath path).error = none ∧
    Arrives beh options root (scanPath path).tokens w container last [] w'

section

variable {root v reached : Value} {path : String} {tokens : List OffsetToken}
  {malformed : Option ParseError} {w w' : World Code Host}

/-- What is done behind the tokens leaves its records behind theirs. -/
theorem log_then {finish : Value → Action Code Host (Except AccessError α)}
    (read : (walk beh options none root tokens).outcome w = (.ok reached, w')) :
    ((walk beh options none root tokens >>= afterReading none finish).run w).log =
      ((walk beh options none root tokens).run w).log ++ ((finish reached).run w').log := by
  obtain ⟨log, ran⟩ := run_of_outcome read
  rw [run_bind, ran]
  rfl

/-- Nothing is done, or recorded, if they are not all read or a malformed segment follows. -/
theorem log_then_of_stopped {finish : Value → Action Code Host (Except AccessError α)}
    (stopped : ∀ reached w', malformed = none →
      (walk beh options none root tokens).outcome w ≠ (.ok reached, w')) :
    ((walk beh options none root tokens >>= afterReading malformed finish).run w).log =
      ((walk beh options none root tokens).run w).log := by
  rcases read : (walk beh options none root tokens).run w with ⟨e | reached, w', log⟩
  · rw [run_bind, read]
    exact List.append_nil log
  · cases malformed with
    | none => exact absurd (outcome_of_run read) (stopped reached w' rfl)
    | some e =>
      rw [run_bind, read]
      exact List.append_nil log

theorem log_getValue (root : Value) (path : String) (w : World Code Host) :
    ((getValue beh options root path).run w).log =
      ((walk beh options none root (scanPath path).tokens).run w).log ++
        failureRecord (.readFailed path) ((getValue beh options root path).run w).result := by
  rw [getValue_eq_walk_then, log_recordFailure]
  congr 1
  rcases read : (walk beh options none root (scanPath path).tokens).outcome w with
    ⟨e | reached, w'⟩
  · exact log_then_of_stopped fun _ _ _ => by simp [read]
  · cases malformed : (scanPath path).error with
    | none => exact (log_then read).trans (List.append_nil _)
    | some e => exact log_then_of_stopped nofun

/-- A call that fails is recorded once, be it for the value or for the view of it. -/
theorem log_get (type : NativeType) (root : Value) (path : String) (w : World Code Host) :
    ((get beh options type root path).run w).log =
      ((walk beh options none root (scanPath path).tokens).run w).log ++
        failureRecord (.readFailed path) ((get beh options type root path).run w).result := by
  have logged : ((getValue beh options root path).run w).log = _ := log_getValue root path w
  rw [get, run_bind]
  rcases read : (getValue beh options root path).run w with ⟨e | v, w', log⟩
  · rw [read] at logged
    exact (List.append_nil log).trans logged
  · rw [read] at logged
    have complete : log = ((walk beh options none root (scanPath path).tokens).run w).log :=
      logged.trans (List.append_nil _)
    cases viewed : v.view? type with
    | none =>
      simp only [viewed, complete]
      rfl
    | some view =>
      simp only [viewed, complete]
      rfl

theorem log_writeLast (container : Value) (token : OffsetToken) (v : Value)
    (w : World Code Host) :
    ((writeLast beh container token v).run w).log =
      .write token.token container.tag ::
        ((DeferredWrite.apply beh ⟨container, token.token⟩ v).run w).log := by
  simp only [writeLast, run_bind, run_record]
  rcases (DeferredWrite.apply beh ⟨container, token.token⟩ v).run w with ⟨fault | done, w', log⟩
  · simp
  · simp

/-- The write is recorded before it is tried. -/
theorem log_set_of_reaches {last : OffsetToken} {container : Value}
    (reaches : ReachesWrite beh options root path w last container w') :
    ((set beh options root path v).run w).log =
      ((walk beh options none root (scanPath path).tokens.dropLast).run w).log ++
        .write last.token container.tag ::
          ((DeferredWrite.apply beh ⟨container, last.token⟩ v).run w').log ++
        failureRecord (.writeFailed path) ((set beh options root path v).run w).result := by
  obtain ⟨sound, front, whole, read⟩ := reaches
  rw [set_eq_walk_then beh options root v whole, log_recordFailure, whole, List.dropLast_concat,
    sound, log_then read, log_writeLast]

theorem log_set_of_not_reaches
    (stopped : ∀ last container w', ¬ ReachesWrite beh options root path w last container w') :
    ((set beh options root path v).run w).log =
      ((walk beh options none root (scanPath path).tokens.dropLast).run w).log ++
        failureRecord (.writeFailed path) ((set beh options root path v).run w).result := by
  rcases List.eq_nil_or_concat (scanPath path).tokens with empty | ⟨front, last, whole⟩
  · rw [set, log_recordFailure, empty]
    cases (scanPath path).error <;> rfl
  · rw [List.concat_eq_append] at whole
    rw [set_eq_walk_then beh options root v whole, log_recordFailure, whole,
      List.dropLast_concat]
    congr 1
    exact log_then_of_stopped fun reached w' sound read =>
      stopped last reached w' ⟨sound, front, whole, read⟩

/-- A call that succeeds has read its tokens and has come to no malformed segment. -/
theorem read_of_ok {finish : Value → Action Code Host (Except AccessError α)} {a : α}
    (ok : ((walk beh options none root tokens >>= afterReading malformed finish).run w).result =
      .ok a) :
    malformed = none ∧
      ∃ reached w', (walk beh options none root tokens).outcome w = (.ok reached, w') := by
  rw [run_bind] at ok
  rcases read : (walk beh options none root tokens).run w with ⟨e | reached, w', log⟩
  · rw [read] at ok
    cases ok
  · rw [read] at ok
    cases malformed with
    | none => exact ⟨rfl, reached, w', outcome_of_run read⟩
    | some e => cases ok

theorem read_of_getValue {a : Value}
    (ok : ((getValue beh options root path).run w).result = .ok a) :
    ∃ reached w',
      (walk beh options none root (scanPath path).tokens).outcome w = (.ok reached, w') := by
  rw [getValue_eq_walk_then, result_recordFailure] at ok
  exact (read_of_ok ok).2

theorem getValue_of_get {type : NativeType} {view : View}
    (ok : ((get beh options type root path).run w).result = .ok view) :
    ∃ a, ((getValue beh options root path).run w).result = .ok a := by
  rcases got : (getValue beh options root path).run w with ⟨e | a, w', log⟩
  · have failed : (get beh options type root path).outcome w = (.error e, w') :=
      outcome_get_of_error (outcome_of_run got)
    cases ok.symm.trans (congrArg Prod.fst failed)
  · exact ⟨a, rfl⟩

theorem reachesWrite_of_set {a : Unit}
    (ok : ((set beh options root path v).run w).result = .ok a) :
    ∃ last container w', ReachesWrite beh options root path w last container w' := by
  rcases List.eq_nil_or_concat (scanPath path).tokens with empty | ⟨front, last, whole⟩
  · rw [set, result_recordFailure, empty] at ok
    cases malformed : (scanPath path).error <;> rw [malformed] at ok <;> cases ok
  · rw [List.concat_eq_append] at whole
    rw [set_eq_walk_then beh options root v whole, result_recordFailure] at ok
    obtain ⟨sound, reached, w', read⟩ := read_of_ok ok
    exact ⟨last, reached, w', sound, front, whole, read⟩

end

/-! ## 4. Lines -/

/-- A record as a line of the log. -/
def line (typeName : TypeId → String) (r : LogRecord) : LogLevel × String :=
  (r.level, r.text typeName)

/-- How a line names a token: by the name of the member, or by the index in decimal. -/
def tokenName : Token → String
  | .member name => name
  | .element index => "Array.data[" ++ toString index.toNat ++ "]"

/-- How a line names the kind of a value. -/
def kindName : Value → String
  | .null => "Null"
  | .bool _ => "Bool"
  | .int _ => "Int"
  | .float _ => "Float"
  | .char _ => "Char"
  | .str _ => "Str"
  | .struct .. => "Struct"
  | .object _ => "Object"
  | .array _ => "Array"
  | .list _ => "List"

/-- One line for each completed step. -/
def stepLines (done : List (OffsetToken × Value)) : List (LogLevel × String) :=
  done.map fun (token, v) => (.trace, "`" ++ tokenName token.token ++ "` -> " ++ kindName v)

/-- One line for the write, if the call comes to it. -/
def writeLines (write : Option (OffsetToken × Value)) : List (LogLevel × String) :=
  (write.map fun (last, container) =>
    (.trace, "write `" ++ tokenName last.token ++ "` into " ++ kindName container)).toList

/-- One line for the call, if it fails. -/
def failureLines (opening path : String) (typeName : TypeId → String) :
    Except AccessError α → List (LogLevel × String)
  | .ok _ => []
  | .error e => [(.debug, opening ++ path ++ "`: " ++ e.message typeName)]

/-- Tokens are printed by their names. -/
theorem text_eq_tokenName (token : Token) : token.text = tokenName token := by
  cases token with
  | member name => exact String.ofList_toList
  | element index =>
    rw [Token.text, Token.chars, Decimal.digits_eq_toDigits, String.ofList_append,
      String.ofList_append]
    rfl

/-- Values are printed by their kinds. -/
theorem text_tag_eq_kindName (v : Value) : v.tag.text = kindName v := by
  cases v <;> rfl

/-- The text of an error names the token at fault and where its segment starts, if there is one. -/
theorem message_eq (typeName : TypeId → String) (e : AccessError) :
    e.message typeName =
      (e.token.elim "Error accessing path" fun token =>
        "Error accessing `" ++ tokenName token ++ "`") ++
      (e.offset.elim "" fun n => " (offset " ++ toString n ++ ")") ++ ": " ++
      e.fault.message typeName := by
  have decimal (n : Nat) : Decimal.text n = toString n := by
    rw [Decimal.text, Decimal.digits_eq_toDigits]
    rfl
  rcases e with ⟨fault, _ | token, _ | n⟩ <;>
    simp [AccessError.message, text_eq_tokenName, decimal, String.append_assoc]

theorem lines_steps (typeName : TypeId → String) (done : List (OffsetToken × Value)) :
    (done.map stepRecord).map (line typeName) = stepLines done := by
  rw [List.map_map]
  refine List.map_congr_left fun (token, v) _ => ?_
  show (_, "`" ++ token.token.text ++ "` -> " ++ v.tag.text) = _
  rw [text_eq_tokenName, text_tag_eq_kindName]
  rfl

theorem line_write (typeName : TypeId → String) (last : OffsetToken) (container : Value) :
    [line typeName (.write last.token container.tag)] = writeLines (some (last, container)) := by
  show [(_, "write `" ++ last.token.text ++ "` into " ++ container.tag.text)] = _
  rw [text_eq_tokenName, text_tag_eq_kindName]
  rfl

theorem lines_readFailed (typeName : TypeId → String) (path : String)
    (result : Except AccessError α) :
    (failureRecord (.readFailed path) result).map (line typeName) =
      failureLines "failed to read `" path typeName result := by
  cases result <;> rfl

theorem lines_writeFailed (typeName : TypeId → String) (path : String)
    (result : Except AccessError α) :
    (failureRecord (.writeFailed path) result).map (line typeName) =
      failureLines "failed to write `" path typeName result := by
  cases result <;> rfl

theorem levels_steps (done : List (OffsetToken × Value)) :
    (done.map stepRecord).map (·.level) = List.replicate done.length .trace := by
  rw [List.map_map, List.eq_replicate_iff]
  refine ⟨List.length_map .., fun level member => ?_⟩
  obtain ⟨step, -, rfl⟩ := List.mem_map.1 member
  rfl

/-- The lines of the log are those of the completed steps, then that of the write, if the call has
come to it, then that of the call, if it has failed. -/
def Transcribes (run : Run Code Host (Except AccessError α)) (opening path : String)
    (done : List (OffsetToken × Value)) (write : Option (OffsetToken × Value)) : Prop :=
  ∀ typeName, run.log.map (line typeName) =
    stepLines done ++ writeLines write ++ failureLines opening path typeName run.result

section

variable {type : NativeType} {root v : Value} {path : String} {w w' : World Code Host}
  {done : List (OffsetToken × Value)}

theorem ReachesWrite.unique {last last' : OffsetToken} {container container' : Value}
    {w'' : World Code Host} (here : ReachesWrite beh options root path w last container w')
    (there : ReachesWrite beh options root path w last' container' w'') :
    last = last' ∧ container = container' := by
  obtain ⟨-, front, whole, read⟩ := here
  obtain ⟨-, front', whole', read'⟩ := there
  obtain ⟨rfl, same⟩ := List.append_inj' (whole.symm.trans whole') rfl
  cases same
  cases read.symm.trans read'
  exact ⟨rfl, rfl⟩

theorem ReachesWrite.read {last : OffsetToken} {container : Value}
    (reaches : ReachesWrite beh options root path w last container w') :
    (walk beh options none root (scanPath path).tokens.dropLast).outcome w =
      (.ok container, w') := by
  obtain ⟨-, front, whole, read⟩ := reaches
  rwa [whole, List.dropLast_concat]

theorem ReachesWrite.length_dropLast {last : OffsetToken} {container : Value}
    (reaches : ReachesWrite beh options root path w last container w') :
    (scanPath path).tokens.length = (scanPath path).tokens.dropLast.length + 1 := by
  obtain ⟨-, front, whole, -⟩ := reaches
  rw [whole, List.dropLast_concat, List.length_append, List.length_singleton]

/-- The write is the only one that the call comes to. -/
theorem transcribes_set (silent : SilentReads beh options root (scanPath path).tokens.dropLast w)
    (unlogged : ∀ last container w', ReachesWrite beh options root path w last container w' →
      SilentlyWritten beh container last.token v w') :
    ∃ done write, Completed beh options root (scanPath path).tokens.dropLast w done ∧
      (∀ last container, write = some (last, container) ↔
        ∃ w', ReachesWrite beh options root path w last container w') ∧
      Transcribes ((set beh options root path v).run w) "failed to write `" path done write := by
  obtain ⟨done, completed, logged⟩ := log_walk silent
  by_cases reach : ∃ last container w', ReachesWrite beh options root path w last container w'
  · obtain ⟨last, container, w', reaches⟩ := reach
    refine ⟨done, some (last, container), completed, fun last' container' => ⟨?_, ?_⟩,
      fun typeName => ?_⟩
    · rintro ⟨⟩
      exact ⟨w', reaches⟩
    · rintro ⟨w'', there⟩
      obtain ⟨rfl, rfl⟩ := reaches.unique there
      rfl
    · rw [log_set_of_reaches reaches, log_apply (unlogged last container w' reaches), logged,
        List.map_append, List.map_append, lines_steps, lines_writeFailed, ← line_write typeName]
      rfl
  · have stopped : ∀ last container w',
        ¬ ReachesWrite beh options root path w last container w' :=
      fun last container w' reaches => reach ⟨last, container, w', reaches⟩
    refine ⟨done, none, completed, fun last container => ⟨nofun, ?_⟩, fun typeName => ?_⟩
    · rintro ⟨w', reaches⟩
      exact absurd reaches (stopped last container w')
    · rw [log_set_of_not_reaches stopped, logged, List.map_append, lines_steps,
        lines_writeFailed]
      exact congrArg (· ++ _) (List.append_nil _).symm

theorem levels_walk {tokens : List OffsetToken} (silent : SilentReads beh options root tokens w)
    (read : (walk beh options none root tokens).outcome w = (.ok v, w')) :
    ((walk beh options none root tokens).run w).log.map (·.level) =
      List.replicate tokens.length .trace := by
  obtain ⟨done, completed, logged⟩ := log_walk silent
  rw [logged, levels_steps, ← completed.all_of_ok read, List.length_map]

theorem levels_getValue (silent : SilentReads beh options root (scanPath path).tokens w)
    (ok : ((getValue beh options root path).run w).result = .ok v) :
    ((getValue beh options root path).run w).log.map (·.level) =
      List.replicate (scanPath path).tokens.length .trace := by
  obtain ⟨reached, w', read⟩ := read_of_getValue ok
  rw [log_getValue, ok, List.map_append, levels_walk silent read]
  exact List.append_nil _

/-- If there is a value, its view adds nothing to the records, or its own failure. -/
theorem levels_get (silent : SilentReads beh options root (scanPath path).tokens w)
    (ok : ((getValue beh options root path).run w).result = .ok v) :
    ((get beh options type root path).run w).log.map (·.level) =
      List.replicate (scanPath path).tokens.length .trace ++
        (failureRecord (.readFailed path) ((get beh options type root path).run w).result).map
          (·.level) := by
  obtain ⟨reached, w', read⟩ := read_of_getValue ok
  rw [log_get, List.map_append, levels_walk silent read]

theorem levels_set (silent : SilentReads beh options root (scanPath path).tokens.dropLast w)
    (unlogged : ∀ last container w', ReachesWrite beh options root path w last container w' →
      SilentlyWritten beh container last.token v w') {a : Unit}
    (ok : ((set beh options root path v).run w).result = .ok a) :
    ((set beh options root path v).run w).log.map (·.level) =
      List.replicate (scanPath path).tokens.length .trace := by
  obtain ⟨last, container, w', reaches⟩ := reachesWrite_of_set ok
  have levels := levels_walk silent reaches.read
  rw [log_set_of_reaches reaches, log_apply (unlogged last container w' reaches), ok,
    List.map_append, List.map_append, levels, reaches.length_dropLast, List.replicate_succ']
  exact List.append_nil _

end

/-- The log is a transcript of the call, whatever the path and wherever the call fails, if the code
that it runs leaves no records.

To get a value, or a view of one, all tokens are read; to set it, all but the last. The lines are
those of the completed steps in the order of the path, then for a call that sets and comes to its
write the line of the write, whether or not the write succeeds, and then one line for the call if
and only if it fails. So a call that succeeds along `n` tokens leaves `n` lines, and one that fails
only to view the value leaves one more. -/
theorem log_is_transcript (beh : Behaviour Code Host) (options : AccessOptions) (type : NativeType)
    (root v : Value) (path : String) (w : World Code Host) :
    let tokens := (scanPath path).tokens
    let got := (getValue beh options root path).run w
    let viewed := (get beh options type root path).run w
    let put := (set beh options root path v).run w
    let all := List.replicate tokens.length LogLevel.trace
    (SilentReads beh options root tokens w →
      (∃ done, Completed beh options root tokens w done ∧
        Transcribes got "failed to read `" path done none ∧
        Transcribes viewed "failed to read `" path done none) ∧
      (∀ a, got.result = .ok a → got.log.map (·.level) = all) ∧
      (∀ a, viewed.result = .ok a → viewed.log.map (·.level) = all) ∧
      (∀ a e, got.result = .ok a → viewed.result = .error e →
        viewed.log.map (·.level) = all ++ [.debug])) ∧
    (SilentReads beh options root tokens.dropLast w →
      (∀ last container w', ReachesWrite beh options root path w last container w' →
        SilentlyWritten beh container last.token v w') →
      (∃ done write, Completed beh options root tokens.dropLast w done ∧
        (∀ last container, write = some (last, container) ↔
          ∃ w', ReachesWrite beh options root path w last container w') ∧
        Transcribes put "failed to write `" path done write) ∧
      (∀ a, put.result = .ok a → put.log.map (·.level) = all)) := by
  intro tokens got viewed put all
  refine ⟨fun silent => ⟨?_, fun a ok => levels_getValue silent ok, fun a ok => ?_,
    fun a e ok failed => ?_⟩, fun silent unlogged => ⟨transcribes_set silent unlogged,
      fun a ok => levels_set silent unlogged ok⟩⟩
  · obtain ⟨done, completed, logged⟩ := log_walk silent
    refine ⟨done, completed, fun typeName => ?_, fun typeName => ?_⟩
    · rw [log_getValue, logged, List.map_append, lines_steps, lines_readFailed]
      exact congrArg (· ++ _) (List.append_nil _).symm
    · rw [log_get, logged, List.map_append, lines_steps, lines_readFailed]
      exact congrArg (· ++ _) (List.append_nil _).symm
  · obtain ⟨x, got_ok⟩ := getValue_of_get ok
    rw [levels_get silent got_ok, ok]
    exact List.append_nil _
  · rw [levels_get silent ok, failed]
    rfl

/-- Code that does nothing leaves no records, wherever it is run. -/
theorem silentReads_still (options : AccessOptions) (root : Value) (tokens : List OffsetToken)
    (w : World Code Host) : SilentReads .still options root tokens w :=
  fun _ _ _ _ _ => ⟨fun _ _ _ _ _ _ => rfl, fun _ _ _ _ _ _ => rfl⟩

/-- The property gives null, which is no character; and it cannot be written. -/
theorem log_is_transcript_looped :
    let path := "Array.data[0].first"
    let tokens := (scanPath path).tokens
    SilentReads .still {} (.array 0) tokens looped ∧
      SilentReads .still {} (.array 0) tokens.dropLast looped ∧
      (∀ last container w', ReachesWrite .still {} (.array 0) path looped last container w' →
        SilentlyWritten .still container last.token .null w') ∧
      ((getValue .still {} (.array 0) path).run looped).log.map (·.level) = [.trace, .trace] ∧
      ((get .still {} .char (.array 0) path).run looped).log.map (·.level) =
        [.trace, .trace, .debug] ∧
      ∀ typeName, ((set .still {} (.array 0) path .null).run looped).log.map (line typeName) =
        [(.trace, "`Array.data[0]` -> Object"), (.trace, "write `first` into Object"),
          (.debug, "failed to write `Array.data[0].first`: " ++
            "Error accessing `first` (offset 14): property `first` is not writable")] := by
  intro path tokens
  have outer : tokens = [⟨.element 0, 0⟩, ⟨.member "first", 14⟩] := by decide +kernel
  have sound : (scanPath path).error = none := by decide +kernel
  have silent := silentReads_still {} (.array 0) tokens looped
  have silent' := silentReads_still {} (.array 0) tokens.dropLast looped
  have unlogged : ∀ last container w', ReachesWrite .still {} (.array 0) path looped last container
      w' → SilentlyWritten .still container last.token .null w' :=
    fun _ _ _ _ _ _ _ _ _ _ _ => rfl
  have got : ((getValue .still {} (.array 0) path).outcome looped) = (.ok .null, looped) := by
    rw [outcome_getValue, show (scanPath path).tokens = _ from outer, sound]
    rfl
  have viewed : ((get .still {} .char (.array 0) path).outcome looped) =
      (.error (.wholePath (.typeMismatch NativeType.char.text .null)), looped) := by
    rw [get, outcome_bind, got]
    rfl
  have put : ((set .still {} (.array 0) path .null).run looped).result =
      .error (.atToken ⟨.member "first", 14⟩ (.notWritable .property "first")) := by
    rw [set, result_recordFailure, show (scanPath path).tokens = _ from outer, sound]
    rfl
  have reaches : ReachesWrite .still {} (.array 0) path looped ⟨.member "first", 14⟩ (.object 1)
      looped := ⟨sound, [⟨.element 0, 0⟩], outer, rfl⟩
  have two : List.replicate tokens.length LogLevel.trace = [.trace, .trace] := by
    rw [outer]
    rfl
  obtain ⟨⟨-, levels, -, mismatch⟩, ⟨done, write, completed, last, lines⟩, -⟩ :=
    (log_is_transcript .still {} .char (.array 0) .null path looped).imp (· silent)
      (· silent' unlogged)
  obtain rfl := (last _ _).2 ⟨looped, reaches⟩
  refine ⟨silent, silent', unlogged, ?_, ?_, fun typeName => ?_⟩
  · exact (levels _ (congrArg Prod.fst got)).trans two
  · exact (mismatch _ _ (congrArg Prod.fst got) (congrArg Prod.fst viewed)).trans
      (congrArg (· ++ [.debug]) two)
  · have only : done.map Prod.fst = [⟨.element 0, 0⟩] :=
      (completed.all_of_ok reaches.read).trans (congrArg List.dropLast outer)
    obtain ⟨⟨token, u⟩, rfl⟩ := List.length_eq_one_iff.1
      ((List.length_map _).symm.trans (congrArg List.length only))
    cases only
    obtain ⟨w', read⟩ := completed.read [] _ u [] rfl
    have first : (walk .still {} none (.array 0) [⟨.element 0, 0⟩]).outcome looped =
        (.ok (.object 1), looped) := rfl
    cases read.symm.trans first
    rw [lines typeName, put]
    simp only [failureLines, message_eq]
    rfl

end PathAccess

end ObjectGraph
