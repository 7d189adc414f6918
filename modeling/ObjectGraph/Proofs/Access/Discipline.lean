import ObjectGraph.Proofs.Access.Composition
import ObjectGraph.Proofs.Access.DeferredWrite

/-!
# Disciplines

A discipline is a condition that actions keep, together with a sense in which worlds only grow. The
values that an action handles are good, and stay good in grown worlds. Of path access a discipline
asks little: what it means for one step that runs no code, and for one write. All else follows for
paths of any length, whatever the code of members does, as long as that code obeys.

1. `Discipline`, `Obeys`: actions that keep to a discipline, and their composition;
2. `Obedient`, `obeys_readStep`, `obeys_getValue`: reading along paths;
3. `obeys_apply`, `obeys_set`: writing along paths.
-/

namespace ObjectGraph

open ObjectGraph.Action

variable {Code Host α β : Type}

/-! ## 1. Obeying a discipline -/

/-- A condition on worlds, and what may become of a world that meets it. -/
structure Discipline (Code Host : Type) where
  holds : World Code Host → Prop
  grows : World Code Host → World Code Host → Prop
  refl : ∀ w, grows w w
  trans : ∀ {w w' w''}, grows w w' → grows w' w'' → grows w w''

/-- Run in `w`, given `P`, the action keeps the condition and has a result with `Q`. -/
def Obeys (d : Discipline Code Host) (x : Action Code Host α) (w : World Code Host) (P : Prop)
    (Q : World Code Host → α → Prop) : Prop :=
  d.holds w → P →
    d.holds (x.outcome w).2 ∧ d.grows w (x.outcome w).2 ∧ Q (x.outcome w).2 (x.outcome w).1

section

variable {d : Discipline Code Host} {w : World Code Host} {P : Prop}

theorem obeys_pure {a : α} {Q : World Code Host → α → Prop} (h : d.holds w → P → Q w a) :
    Obeys d (pure a) w P Q :=
  fun keeps given_ => ⟨keeps, d.refl w, h keeps given_⟩

/-- The second action may rely on what held before the first, on what the first has given, and on
the world having only grown. -/
theorem Obeys.bind {x : Action Code Host α} {f : α → Action Code Host β}
    {Q : World Code Host → α → Prop} {R : World Code Host → β → Prop} (first : Obeys d x w P Q)
    (second : ∀ a w', Obeys d (f a) w' (d.holds w ∧ P ∧ d.grows w w' ∧ Q w' a) R) :
    Obeys d (x >>= f) w P R := by
  intro keeps given_
  obtain ⟨between, grown, result⟩ := first keeps given_
  obtain ⟨after, grown', result'⟩ := second _ _ between ⟨keeps, given_, grown, result⟩
  rw [outcome_bind]
  exact ⟨after, d.trans grown grown', result'⟩

/-- What is asked may be more, and what is promised less. -/
theorem Obeys.imp {x : Action Code Host α} {P' : Prop} {Q Q' : World Code Host → α → Prop}
    (obeys : Obeys d x w P' Q') (pre : d.holds w → P → P')
    (post : d.holds w → P → d.holds (x.outcome w).2 → d.grows w (x.outcome w).2 →
      Q' (x.outcome w).2 (x.outcome w).1 → Q (x.outcome w).2 (x.outcome w).1) :
    Obeys d x w P Q := by
  intro keeps given_
  obtain ⟨after, grown, result⟩ := obeys keeps (pre keeps given_)
  exact ⟨after, grown, post keeps given_ after grown result⟩

theorem Obeys.given {x : Action Code Host α} {P' : Prop} {Q : World Code Host → α → Prop}
    (obeys : Obeys d x w P' Q) (pre : d.holds w → P → P') : Obeys d x w P Q :=
  obeys.imp pre fun _ _ _ _ result => result

/-- An action whose outcome is known. -/
theorem Obeys.of_outcome {x : Action Code Host α} {Q : World Code Host → α → Prop} {a : α}
    {w' : World Code Host} (found : x.outcome w = (a, w'))
    (h : d.holds w → P → d.holds w' ∧ d.grows w w' ∧ Q w' a) : Obeys d x w P Q := by
  intro keeps given_
  rw [found]
  exact h keeps given_

/-- An action that changes nothing. -/
theorem Obeys.of_result {x : Action Code Host α} {Q : World Code Host → α → Prop} {a : α}
    (found : x.outcome w = (a, w)) (h : d.holds w → P → Q w a) : Obeys d x w P Q :=
  .of_outcome found fun keeps given_ => ⟨keeps, d.refl w, h keeps given_⟩

theorem Obeys.congr {x y : Action Code Host α} {Q : World Code Host → α → Prop}
    (same : x.outcome w = y.outcome w) (obeys : Obeys d y w P Q) : Obeys d x w P Q := by
  rw [Obeys, same]
  exact obeys

theorem Obeys.map {x : Action Code Host α} {f : α → β} {Q : World Code Host → α → Prop}
    {R : World Code Host → β → Prop} (obeys : Obeys d x w P Q)
    (h : ∀ w' a, Q w' a → R w' (f a)) : Obeys d (f <$> x) w P R := by
  intro keeps given_
  rw [outcome_map]
  obtain ⟨after, grown, result⟩ := obeys keeps given_
  exact ⟨after, grown, h _ _ result⟩

/-- Looking at the world. -/
theorem Obeys.gets_bind {g : World Code Host → α} {f : α → Action Code Host β}
    {Q : World Code Host → β → Prop} (obeys : Obeys d (f (g w)) w P Q) :
    Obeys d (gets g >>= f) w P Q := .congr rfl obeys

theorem Obeys.getWorld_bind {f : World Code Host → Action Code Host β}
    {Q : World Code Host → β → Prop} (obeys : Obeys d (f w) w P Q) :
    Obeys d (getWorld >>= f) w P Q := .congr rfl obeys

/-- Log records are no part of the world. -/
theorem Obeys.record_bind {r : LogRecord} {f : Unit → Action Code Host β}
    {Q : World Code Host → β → Prop} (obeys : Obeys d (f ()) w P Q) :
    Obeys d (record r >>= f) w P Q := .congr rfl obeys

end

/-! ## 2. Reading along paths -/

/-- A discipline for path access: which values are good, and which faults a step may have. A step
that runs no code leads to good values; a write keeps the condition. Faults that do not come from
a storage are always allowed. -/
structure PathDiscipline (Code Host : Type) extends Discipline Code Host where
  good : World Code Host → Value → Prop
  allowed : AccessFault → Prop
  mono : ∀ {w w' v}, holds w → grows w w' → good w v → good w' v
  others : ∀ fault, (∀ e, fault ≠ .ofStorage e) → allowed fault
  read : ∀ {w container token v}, holds w → good w container → w.place container token ≠ .code →
    w.readAt container token = .ok v → good w v
  readFault : ∀ {w container token fault}, holds w → good w container →
    w.place container token ≠ .code → w.readAt container token = .error fault → allowed fault
  write : ∀ {w container token v l}, holds w → good w container → good w v →
    w.place container token = .cell l → w.Writable l →
    DeferredWrite.Suits w container token v → holds (w.write l v) ∧ grows w (w.write l v)
  writeFault : ∀ {w container token v fault}, holds w → good w container →
    DeferredWrite.Ends ⟨container, token⟩ v w (.error fault) w → allowed fault

/-- If an access succeeds, it gives a good value; if it fails, its fault is allowed. -/
structure PathDiscipline.Result (d : PathDiscipline Code Host) (w : World Code Host)
    (result : Except AccessFault Value) : Prop where
  good : ∀ v, result = .ok v → d.good w v
  allowed : ∀ fault, result = .error fault → d.allowed fault

/-- The same for the access to a whole path. -/
structure PathDiscipline.PathResult (d : PathDiscipline Code Host) (w : World Code Host)
    (result : Except AccessError Value) : Prop where
  good : ∀ v, result = .ok v → d.good w v
  allowed : ∀ e, result = .error e → d.allowed e.fault

/-- Code that is given good values obeys, and gives good values. -/
structure Obedient (d : PathDiscipline Code Host) (beh : Behaviour Code Host) : Prop where
  getter : ∀ code receiver w, Obeys d.toDiscipline (beh.getter code receiver) w
    (∀ v ∈ receiver, d.good w v) d.good
  setter : ∀ code receiver v w, Obeys d.toDiscipline (beh.setter code receiver v) w
    ((∀ u ∈ receiver, d.good w u) ∧ d.good w v) fun _ _ => True
  method : ∀ code receiver w, Obeys d.toDiscipline (beh.method code receiver) w
    (∀ v ∈ receiver, d.good w v) d.good
  initial : ∀ code w, Obeys d.toDiscipline (beh.initial code) w True d.good

variable {d : PathDiscipline Code Host} {w : World Code Host}

theorem result_ok {v : Value} (good : d.good w v) : d.Result w (.ok v) := by
  refine ⟨?_, nofun⟩
  rintro _ ⟨⟩
  exact good

theorem result_error {fault : AccessFault} (allowed : d.allowed fault) :
    d.Result w (.error fault) := by
  refine ⟨nofun, ?_⟩
  rintro _ ⟨⟩
  exact allowed

theorem allowed_ok (a : α) :
    ∀ e, (.ok a : Except AccessError α) = .error e → d.allowed e.fault := by
  intro e failed
  cases failed

theorem allowed_error {e : AccessError} (allowed : d.allowed e.fault) :
    ∀ e', (.error e : Except AccessError α) = .error e' → d.allowed e'.fault := by
  rintro _ ⟨⟩
  exact allowed

theorem pathResult_ok {v : Value} (good : d.good w v) : d.PathResult w (.ok v) := by
  refine ⟨?_, allowed_ok v⟩
  rintro _ ⟨⟩
  exact good

theorem pathResult_error {e : AccessError} (allowed : d.allowed e.fault) :
    d.PathResult w (.error e) := ⟨nofun, allowed_error allowed⟩

theorem good_receiver {member : Member Code} {container : Value} (good : d.good w container) :
    ∀ v ∈ member.receiver? container, d.good w v := by
  intro v given_
  unfold Member.receiver? at given_
  split at given_
  · cases given_
  · cases given_
    exact good

theorem ofStorage_ne_methodCallDenied (name : String) (e : StorageError) :
    AccessFault.methodCallDenied name ≠ .ofStorage e := by
  cases e <;> exact nofun

variable {beh : Behaviour Code Host} (obedient : Obedient d beh) (options : AccessOptions)
include obedient

theorem obeys_readStep (container : Value) (token : Token) (w : World Code Host) :
    Obeys d.toDiscipline (readStep beh options container token) w (d.good w container)
      d.Result := by
  by_cases plain : w.place container token = .code
  -- Where no code runs, the step is a function of the world and changes nothing.
  case neg =>
    refine .of_result (outcome_readStep beh options plain) fun keeps good => ⟨?_, ?_⟩
    · exact fun v found => d.read keeps good plain found
    · exact fun fault failed => d.readFault keeps good plain failed
  rcases token with name | index
  · rcases found : w.resolveOn container name with fault | ⟨owner, member⟩
    · simp [World.place, found] at plain
    have notNull := World.isNull_of_resolveOn found
    have given_ {v : Value} {w' : World Code Host} {P : Prop} :
        Obeys d.toDiscipline (pure (.ok v) : Action Code Host (Except AccessFault Value)) w'
          (d.holds w ∧ P ∧ d.grows w w' ∧ d.good w' v) d.Result :=
      obeys_pure fun _ before => result_ok before.2.2.2
    have member_read : Obeys d.toDiscipline (readMember beh options container name) w
        (d.good w container) d.Result := by
      unfold readMember
      refine .getWorld_bind ?_
      rw [found]
      rcases content : member.content with ⟨slot, kind⟩ | ⟨getter, setter⟩ | ⟨call⟩
      · rw [World.place_of_field found content] at plain
        exact absurd plain (World.fieldPlace_ne_code container owner member.isStatic slot)
      · simp only [content]
        exact .bind ((obedient.getter getter _ w).given fun _ good => good_receiver good)
          fun v w' => given_
      · simp only [content]
        cases options.methodCalls with
        | invoke =>
          exact .bind ((obedient.method call _ w).given fun _ good => good_receiver good)
            fun v w' => given_
        | deny =>
          exact obeys_pure fun _ _ =>
            result_error (d.others _ (ofStorage_ne_methodCallDenied name))
    simpa [readStep, notNull] using member_read
  · rcases collection : container.collection? with _ | a <;> simp [World.place, collection] at plain

theorem obeys_step (container : Value) (token : OffsetToken) (w : World Code Host) :
    Obeys d.toDiscipline (PathAccess.step beh options container token) w (d.good w container)
      d.PathResult := by
  unfold PathAccess.step
  refine .bind (obeys_readStep obedient options container token.token w) fun result w' => ?_
  rcases result with fault | v
  · exact obeys_pure fun _ before => pathResult_error (before.2.2.2.allowed fault rfl)
  · exact .record_bind (obeys_pure fun _ before => pathResult_ok (before.2.2.2.good v rfl))

omit obedient in
theorem allowed_ofParse (e : ParseError) : d.allowed (AccessError.ofParse e).fault := by
  refine d.others _ fun e' => ?_
  cases e' <;> exact nofun

theorem obeys_walk (malformed : Option ParseError) (tokens : List OffsetToken) (current : Value)
    (w : World Code Host) :
    Obeys d.toDiscipline (PathAccess.walk beh options malformed current tokens) w
      (d.good w current) d.PathResult := by
  -- Induction on the tokens; the value reached so far is good in the world reached so far.
  induction tokens generalizing current w with
  | nil =>
    cases malformed with
    | none => exact obeys_pure fun _ good => pathResult_ok good
    | some e => exact obeys_pure fun _ _ => pathResult_error (allowed_ofParse e)
  | cons token tokens ih =>
    rw [PathAccess.walk]
    refine .bind (obeys_step obedient options current token w) fun result w' => ?_
    rcases result with e | v
    · exact obeys_pure fun _ before => pathResult_error (before.2.2.2.allowed e rfl)
    · exact (ih v w').given fun _ before => before.2.2.2.good v rfl

/-- Reading along a path obeys. -/
theorem obeys_getValue (root : Value) (path : String) (w : World Code Host) :
    Obeys d.toDiscipline (PathAccess.getValue beh options root path) w (d.good w root)
      d.PathResult :=
  .congr (PathAccess.outcome_getValue beh options root path w)
    (obeys_walk obedient options _ _ root w)

/-- And so does a view of the value at a path. -/
theorem obeys_get (type : NativeType) (root : Value) (path : String) (w : World Code Host) :
    Obeys d.toDiscipline (PathAccess.get beh options type root path) w (d.good w root)
      fun _ result => ∀ e, result = .error e → d.allowed e.fault := by
  unfold PathAccess.get
  refine .bind (obeys_getValue obedient options root path w) fun result w' => ?_
  rcases result with e | v
  · exact obeys_pure fun _ before => allowed_error (before.2.2.2.allowed e rfl)
  · dsimp only
    rcases v.view? type with _ | view
    · refine .congr (PathAccess.outcome_recordFailure ..)
        (obeys_pure fun _ _ => allowed_error (d.others _ fun e => ?_))
      cases e <;> rintro ⟨⟩
    · exact obeys_pure fun _ _ => allowed_ok view

/-! ## 3. Writing along paths -/

/-- A deferred write obeys. -/
theorem obeys_apply (container : Value) (token : Token) (v : Value) (w : World Code Host) :
    Obeys d.toDiscipline (DeferredWrite.apply beh ⟨container, token⟩ v) w
      (d.good w container ∧ d.good w v)
      fun _ result => ∀ fault, result = .error fault → d.allowed fault := by
  rcases DeferredWrite.apply_cases container token v w with ⟨fault, -, ends⟩ |
    ⟨suits, l, here, writable, ends⟩ | ⟨name, owner, member, getter, setter, rfl, -, -, -, runs⟩
  · refine .of_result (ends beh) ?_
    rintro keeps ⟨good, -⟩ _ ⟨⟩
    exact d.writeFault keeps good ends
  · refine .of_outcome (ends beh) ?_
    rintro keeps ⟨good, good_value⟩
    obtain ⟨after, grown⟩ := d.write keeps good good_value here writable suits
    exact ⟨after, grown, nofun⟩
  · have call := (obedient.setter setter (member.receiver? container) v w).given
      (P := d.good w container ∧ d.good w v) fun _ good => ⟨good_receiver good.1, good.2⟩
    refine .congr ?_ (call.map (f := (·.mapError .setterFailed))
      (R := fun _ result => ∀ fault, result = .error fault → d.allowed fault) ?_)
    · rw [runs beh, outcome_map]
      rfl
    · rintro w' (e | done) - _ ⟨⟩
      refine d.others _ fun e' => ?_
      cases e' <;> exact nofun

theorem obeys_write (malformed : Option ParseError) (v : Value) (tokens : List OffsetToken)
    (deferred : OffsetToken) (current : Value) (w : World Code Host) :
    Obeys d.toDiscipline (PathAccess.write beh options malformed v deferred current tokens) w
      (d.good w current ∧ d.good w v)
      fun _ result => ∀ e, result = .error e → d.allowed e.fault := by
  induction tokens generalizing deferred current w with
  | nil =>
    cases malformed with
    | none =>
      rw [PathAccess.write, PathAccess.writeLast]
      refine .record_bind (.bind (obeys_apply obedient current deferred.token v w)
        fun result w' => ?_)
      rcases result with fault | done
      · exact obeys_pure fun _ before => allowed_error (before.2.2.2 fault rfl)
      · exact obeys_pure fun _ _ => allowed_ok ()
    | some e => exact obeys_pure fun _ _ => allowed_error (allowed_ofParse e)
  | cons token tokens ih =>
    rw [PathAccess.write]
    refine .bind ((obeys_step obedient options current deferred w).given fun _ good => good.1)
      fun result w' => ?_
    rcases result with e | reached
    · exact obeys_pure fun _ before => allowed_error (before.2.2.2.allowed e rfl)
    · refine (ih token reached w').given ?_
      rintro - ⟨keeps, ⟨-, good⟩, grown, result⟩
      exact ⟨result.good reached rfl, d.mono keeps grown good⟩

/-- Setting along a path obeys. -/
theorem obeys_set (root : Value) (path : String) (v : Value) (w : World Code Host) :
    Obeys d.toDiscipline (PathAccess.set beh options root path v) w (d.good w root ∧ d.good w v)
      fun _ result => ∀ e, result = .error e → d.allowed e.fault := by
  unfold PathAccess.set
  refine .congr (PathAccess.outcome_recordFailure ..) ?_
  rcases (scanPath path).tokens with _ | ⟨deferred, tokens⟩
  · cases (scanPath path).error with
    | none =>
      refine obeys_pure fun _ _ => allowed_error (d.others _ fun e => ?_)
      cases e <;> exact nofun
    | some e => exact obeys_pure fun _ _ => allowed_error (allowed_ofParse e)
  · exact obeys_write obedient options _ v tokens deferred root w

end ObjectGraph
