import ObjectGraph.Proofs.Access.Discipline
import ObjectGraph.Proofs.Client.Invariant

/-!
# Safe actions

An action is safe if it keeps the invariant of the client and gives only sound values. This is
promised as long as no initial value has been refused by the kind of its field, which is known in
the end only: the ledger never forgets a refusal, so if it has none in the end, it had none before.
So safety is a discipline, in which each condition is on the ledger of the world that it is about,
and worlds grow only into worlds whose ledger says no less.

1. `sound_readAt`, `accepted_at_place`: what a token leads to, and the kind that it is written with;
2. `safety`, `Safe`: the discipline, and safe actions;
3. `SafeBehaviour`, `safe_getValue`, `safe_set`: access along paths.
-/

namespace ObjectGraph.Client

open ObjectGraph.Action

variable {Code α β : Type} {w : World Code Memory} {P : Prop}

/-! ## 1. Places -/

/-- Where no code runs, sound containers lead to sound values. -/
theorem sound_readAt (inv : w.Invariant) {container : Value} (sound : w.Sound container)
    {token : Token} {v : Value} (h : w.readAt container token = .ok v) : w.Sound v := by
  rcases World.mem_of_readAt h with ⟨id, stored⟩ | ⟨t, fields, rfl, inside⟩
  · exact (inv.stored id).sound v stored
  · cases sound with
    | struct _ _ fields => exact fields v inside

theorem declared_of_typeOf? (inv : w.Invariant) {container : Value} (sound : w.Sound container)
    {t : TypeId} (h : w.typeOf? container = some t) : t < w.types.size := by
  cases sound with
  | struct declared _ _ =>
    cases h
    exact declared
  | object _ => exact inv.typed.declared _ _ (World.typeOf?_object_eq_some.1 h)
  | _ => cases h

/-- The kind that a deferred write looks at is the kind of the slot that it overwrites. -/
theorem accepted_at_place (inv : w.Invariant) {container : Value} (sound : w.Sound container)
    {token : Token} {l : Location} {v : Value} (here : w.place container token = .cell l)
    (suits : DeferredWrite.Suits w container token v) {ks : List ValueKind}
    (kinds : w.kindsOf l.storage = some ks) {kind : ValueKind} (at_ : ks[l.index]? = some kind) :
    w.accepts kind v = true := by
  cases token with
  | element index =>
    cases sound with
    | array shape =>
      cases here
      simp [World.kindsOf, shape] at kinds
    | list shape =>
      cases here
      simp [World.kindsOf, shape] at kinds
    | _ => cases here
  | member name =>
    rcases found : w.resolveOn container name with fault | ⟨owner, member⟩
    · simp [World.place, found] at here
    obtain ⟨t, type, resolved⟩ := World.resolveMember_of_resolveOn found
    obtain ⟨derived, declares⟩ := TypeTable.mem_of_resolveMember resolved
    have declared := declared_of_typeOf? inv sound type
    rcases content : member.content with ⟨slot, kind'⟩ | _ | _
    · have accepted := suits name owner member slot kind' rfl found content
      rw [World.place_of_field found content] at here
      unfold World.fieldPlace at here
      split at here
      · next static =>
        cases here
        cases kinds
        -- The static storage is that of the owner, a base class of the container's type.
        have earlier := inv.typed.laidOut.ancestors_le declared derived
        have field : member.staticField? = some (slot, kind') := by
          simp [Member.staticField?, static, content]
        have same := slot_of_mem
          (inv.typed.laidOut.statics owner (Nat.lt_of_le_of_lt earlier declared))
          (List.mem_filterMap.2 ⟨member, declares, field⟩)
        cases same.symm.trans at_
        exact accepted
      · next notStatic =>
        cases sound with
        | object shape =>
          cases here
          rw [World.typeOf?_object, shape] at type
          cases type
          rw [World.kindsOf, shape] at kinds
          cases kinds
          have field : member.instanceField? = some (slot, kind') := by
            simp [Member.instanceField?, notStatic, content]
          -- The name is looked up by owner, the kinds are listed by slot: both use one numbering.
          have own := List.mem_filterMap.2 ⟨member, declares, field⟩
          have same := slot_of_mem (inv.typed.laidOut.slots t declared)
            (List.mem_flatMap.2 ⟨owner, List.mem_reverse.2 derived, own⟩)
          cases same.symm.trans at_
          exact accepted
        | _ => cases here
    · simp [World.place, found, content] at here
    · simp [World.place, found, content] at here

/-! ## 2. Safety -/

/-- If all initial values have been accepted, the invariant holds and the values at hand are sound.
-/
def safety (Code : Type) : PathDiscipline Code Memory where
  holds w := w.host.accepted → w.Invariant
  grows w w' := w'.host.accepted → w.host.accepted ∧ w.Extends w'
  refl w accepted := ⟨accepted, .refl w⟩
  trans := by
    -- The ledger is read backwards: clean in the end, so clean in between, so clean at first.
    intro w w' w'' first second accepted
    obtain ⟨between, later⟩ := second accepted
    obtain ⟨before, earlier⟩ := first between
    exact ⟨before, earlier.trans later⟩
  good w v := w.host.accepted → w.Sound v
  allowed _ := True
  mono := by
    intro w w' v inv grown sound accepted
    obtain ⟨before, extends_⟩ := grown accepted
    exact World.sound_of_extends (inv before).typed extends_ (sound before)
  others _ _ := trivial
  read inv sound _ found accepted := sound_readAt (inv accepted) (sound accepted) found
  readFault _ _ _ _ := trivial
  write := by
    intro w container token v l inv container_sound value_sound here _ suits
    have ledger : (w.write l v).host.accepted → w.host.accepted := by
      rw [World.host_write]
      exact id
    refine ⟨fun accepted => ?_, fun accepted => ⟨ledger accepted, World.extends_write w l v⟩⟩
    have before := ledger accepted
    refine World.invariant_write (inv before) (value_sound before) fun ks kinds kind at_ => ?_
    exact accepted_at_place (inv before) (container_sound before) here suits kinds at_
  writeFault _ _ _ := trivial

/-- Run in `w`, given `P`, the action keeps the invariant and has a result with `Q`, if all initial
values have been accepted once it is done. -/
abbrev Safe (x : Act Code α) (w : World Code Memory) (P : Prop)
    (Q : World Code Memory → α → Prop) : Prop :=
  Obeys (safety Code).toDiscipline x w (w.host.accepted → P) fun w' a => w'.host.accepted → Q w' a

/-! What is said of actions that obey, with the ledger taken apart. -/

theorem safe_pure {a : α} {Q : World Code Memory → α → Prop} (h : w.Invariant → P → Q w a) :
    Safe (pure a) w P Q :=
  obeys_pure fun inv given_ accepted => h (inv accepted) (given_ accepted)

/-- The second action may rely on what held before the first, on what the first has given, and on
the world having only grown. -/
theorem Safe.bind {x : Act Code α} {f : α → Act Code β} {Q : World Code Memory → α → Prop}
    {R : World Code Memory → β → Prop} (first : Safe x w P Q)
    (second : ∀ a w', Safe (f a) w' (w.Invariant ∧ P ∧ w.Extends w' ∧ Q w' a) R) :
    Safe (x >>= f) w P R := by
  refine Obeys.bind first fun a w' => (second a w').given ?_
  rintro - ⟨inv, given_, grown, result⟩ accepted
  obtain ⟨before, extends_⟩ := grown accepted
  exact ⟨inv before, given_ before, extends_, result accepted⟩

theorem Safe.imp {x : Act Code α} {P' : Prop} {Q Q' : World Code Memory → α → Prop}
    (safe : Safe x w P' Q') (pre : w.Invariant → P → P')
    (post : w.Invariant → P → w.Extends (x.outcome w).2 →
      Q' (x.outcome w).2 (x.outcome w).1 → Q (x.outcome w).2 (x.outcome w).1) :
    Safe x w P Q := by
  refine Obeys.imp safe (fun inv given_ accepted => pre (inv accepted) (given_ accepted)) ?_
  intro inv given_ _ grown result accepted
  obtain ⟨before, extends_⟩ := grown accepted
  exact post (inv before) (given_ before) extends_ (result accepted)

theorem Safe.given {x : Act Code α} {P' : Prop} {Q : World Code Memory → α → Prop}
    (safe : Safe x w P' Q) (pre : w.Invariant → P → P') : Safe x w P Q :=
  safe.imp pre fun _ _ _ result => result

/-- An action whose outcome is known. It may enter something in the ledger, but takes nothing out.
-/
theorem Safe.of_ledger {x : Act Code α} {Q : World Code Memory → α → Prop} {a : α}
    {w' : World Code Memory} (found : x.outcome w = (a, w'))
    (ledger : w'.host.accepted → w.host.accepted)
    (h : w'.host.accepted → w.Invariant → P → w'.Invariant ∧ w.Extends w' ∧ Q w' a) :
    Safe x w P Q := by
  refine Obeys.of_outcome found fun inv given_ => ?_
  have ended (accepted : w'.host.accepted) : w'.Invariant ∧ w.Extends w' ∧ Q w' a :=
    h accepted (inv (ledger accepted)) (given_ (ledger accepted))
  exact ⟨fun accepted => (ended accepted).1,
    fun accepted => ⟨ledger accepted, (ended accepted).2.1⟩, fun accepted => (ended accepted).2.2⟩

/-- An action whose outcome is known, and that leaves the ledger alone. -/
theorem Safe.of_outcome {x : Act Code α} {Q : World Code Memory → α → Prop} {a : α}
    {w' : World Code Memory} (found : x.outcome w = (a, w'))
    (ledger : w'.host.accepted = w.host.accepted)
    (h : w.Invariant → P → w'.Invariant ∧ w.Extends w' ∧ Q w' a) : Safe x w P Q :=
  .of_ledger found ledger.mp fun _ => h

/-- An action that changes nothing. -/
theorem Safe.of_result {x : Act Code α} {Q : World Code Memory → α → Prop} {a : α}
    (found : x.outcome w = (a, w)) (h : w.Invariant → P → Q w a) : Safe x w P Q :=
  Obeys.of_result found fun inv given_ accepted => h (inv accepted) (given_ accepted)

/-! ## 3. Access along paths -/

/-- If the action succeeds, it gives a sound value. -/
def SoundResult {ε : Type} (w : World Code Memory) (result : Except ε Value) : Prop :=
  ∀ v, result = .ok v → w.Sound v

/-- Code obeys, and an initial value that it gives is accepted by its fields. -/
structure SafeBehaviour (beh : Behaviour Code Memory) : Prop where
  obedient : Obedient (safety Code) beh
  initial : ∀ code w, ((beh.initial code).outcome w).2.host.accepted →
    InitialAccepted ((beh.initial code).outcome w).2 code ((beh.initial code).outcome w).1

variable {beh : Behaviour Code Memory} (safe : SafeBehaviour beh) (options : AccessOptions)
include safe

theorem safe_getValue (root : Value) (path : String) (w : World Code Memory) :
    Safe (PathAccess.getValue beh options root path) w (w.Sound root) SoundResult := by
  refine (obeys_getValue safe.obedient options root path w).imp (fun _ sound => sound) ?_
  exact fun _ _ _ _ result accepted v found => result.good v found accepted

theorem safe_set (root : Value) (path : String) (v : Value) (w : World Code Memory) :
    Safe (PathAccess.set beh options root path v) w (w.Sound root ∧ w.Sound v)
      fun _ _ => True := by
  refine (obeys_set safe.obedient options root path v w).imp (fun _ sound => ?_) ?_
  · exact ⟨fun accepted => (sound accepted).1, fun accepted => (sound accepted).2⟩
  · exact fun _ _ _ _ _ _ => trivial

omit options in
/-- A deferred write. -/
theorem safe_apply (container : Value) (token : Token) (v : Value) (w : World Code Memory) :
    Safe (DeferredWrite.apply beh ⟨container, token⟩ v) w (w.Sound container ∧ w.Sound v)
      fun _ _ => True := by
  refine (obeys_apply safe.obedient container token v w).imp (fun _ sound => ?_) ?_
  · exact ⟨fun accepted => (sound accepted).1, fun accepted => (sound accepted).2⟩
  · exact fun _ _ _ _ _ _ => trivial

end ObjectGraph.Client
