import ObjectGraph.Proofs.Client.Safety

/-!
# New instances

A new instance gets its fields one by one, from code or from the defaults of their kinds. Code may
do anything meanwhile, declare types included, but the types that exist stay as they are, and the
values made before stay sound.

1. `outcome_newInstance_value`, `outcome_newInstance_reference`: structs and objects;
2. `safe_initialValue`, `safe_inits`: the first values of fields;
3. `safe_newInstance`: instances fit their types;
4. `hasDefault_of_accepted`: when the default of a kind is accepted.
-/

namespace ObjectGraph.Client

open ObjectGraph.Action

variable {Code : Type} {w : World Code Memory}

/-! ## 1. Structs and objects -/

/-- A new instance of a value type is a struct. -/
theorem outcome_newInstance_value {Host : Type} (beh : Behaviour Code Host) {w : World Code Host}
    {t : TypeId} (value : w.types.kind t = .value) : (newInstance beh t).outcome w =
      let made := ((w.types.info t).inits.mapM (initialValue beh t)).outcome w
      (.struct t made.1, made.2) := by
  rw [newInstance, outcome_bind, outcome_gets, outcome_bind]
  simp only [value]
  rfl

/-- A new instance of a class is an object, at the next address. -/
theorem outcome_newInstance_reference {Host : Type} (beh : Behaviour Code Host)
    {w : World Code Host} {t : TypeId} (reference : w.types.kind t = .reference) :
    (newInstance beh t).outcome w =
      let made := ((w.types.info t).inits.mapM (initialValue beh t)).outcome w
      (.object made.2.entities.size, (made.2.allocate (.object t) made.1.toArray).2) := by
  rw [newInstance, outcome_bind, outcome_gets, outcome_bind]
  simp only [reference]
  rfl

/-! ## 2. First values -/

/-- A field of another kind than a struct begins with a native datum, which its kind accepts. -/
theorem initialValue_default {Host : Type} (beh : Behaviour Code Host) (t : TypeId)
    {k : ValueKind} (notStruct : ∀ s, k ≠ .struct s) :
    ∃ datum, initialValue beh t (.default k) = pure (.ofNative datum) ∧
      ∀ w : World Code Host, w.accepts k (.ofNative datum) = true := by
  cases k with
  | struct s => exact absurd rfl (notStruct s)
  | bool => exact ⟨.bool false, by rw [initialValue]; rfl, fun _ => rfl⟩
  | int => exact ⟨.int 0, by rw [initialValue]; rfl, fun _ => rfl⟩
  | float => exact ⟨.float64 .zero, by rw [initialValue]; rfl, fun _ => rfl⟩
  | char => exact ⟨.char _, by rw [initialValue]; rfl, fun _ => rfl⟩
  | any | str | object | anyObject | array | list =>
    exact ⟨.nothing, by simp [initialValue, Value.ofNative], fun _ => rfl⟩

theorem sound_ofNative (w : World Code Memory) (datum : Native) :
    w.Sound (Value.ofNative datum) := by
  cases datum with
  | int n => exact .int n
  | bool b => exact .bool b
  | char c => exact .char c
  | float32 x => exact .float _
  | float64 x => exact .float x
  | string s => exact .str s
  | nothing => exact .null

/-- Some slot of `t` is of the kind and begins in this way. -/
def Begins (w : World Code Memory) (t : TypeId) (init : FieldInit Code) (kind : ValueKind) :
    Prop :=
  t < w.types.size ∧ ∃ slot : Nat, (w.types.info t).inits[slot]? = some init ∧
    (w.types.fieldKinds t)[slot]? = some kind

theorem Begins.mono {w' : World Code Memory} {t : TypeId} {init : FieldInit Code}
    {kind : ValueKind} (h : Begins w t init kind) (inv : w.Invariant) (grown : w.Extends w') :
    Begins w' t init kind := by
  obtain ⟨declared, slot, begins, of_kind⟩ := h
  refine ⟨Nat.lt_of_lt_of_le declared grown.types.size, slot, ?_, ?_⟩
  · rw [grown.types.info t declared]
    exact begins
  · rw [inv.typed.laidOut.fieldKinds_eq grown.types declared]
    exact of_kind

/-- A default is that of the kind itself. -/
theorem Begins.eq_kind {t : TypeId} {k kind : ValueKind} (h : Begins w t (.default k) kind)
    (inv : w.Invariant) : k = kind := by
  obtain ⟨declared, slot, begins, of_kind⟩ := h
  obtain ⟨inside, here⟩ := List.getElem?_eq_some_iff.1 begins
  obtain ⟨inside', here'⟩ := List.getElem?_eq_some_iff.1 of_kind
  have suits := (List.forall₂_iff_get.1 (inv.typed.laidOut.inits t declared)).2 slot inside inside'
  simp only [List.get_eq_getElem, here, here'] at suits
  exact suits k rfl

variable {beh : Behaviour Code Memory}

/-- The first value of a field is sound, and the field accepts it. -/
theorem safe_initialValue (safe : SafeBehaviour beh) {t : TypeId}
    (instances : ∀ s < t, ∀ w : World Code Memory,
      Safe (newInstance beh s) w (s < w.types.size) fun w' v => w'.Sound v)
    (init : FieldInit Code) (kind : ValueKind) (w : World Code Memory) :
    Safe (initialValue beh t init) w (Begins w t init kind)
      fun w' v => w'.Sound v ∧ w'.accepts kind v = true := by
  rcases init with k | code
  · by_cases struct : ∃ s, k = .struct s
    case neg =>
      obtain ⟨datum, begun, accepted⟩ := initialValue_default beh t (not_exists.1 struct)
      rw [begun]
      refine safe_pure fun inv begins => ⟨sound_ofNative w datum, ?_⟩
      rw [← begins.eq_kind inv]
      exact accepted w
    case pos =>
      obtain ⟨s, rfl⟩ := struct
      rw [initialValue]
      split
      · next earlier =>
        -- A struct in a field is of an earlier type, so its own fields come first.
        refine (instances s earlier w).imp ?_ ?_
        · exact fun _ begins => Nat.lt_trans earlier begins.1
        · intro inv begins _ sound
          refine ⟨sound, ?_⟩
          obtain ⟨declared, slot, begins', of_kind⟩ := begins
          have default := inv.typed.laidOut.defaults t declared s (List.mem_of_getElem? begins')
          rw [outcome_newInstance_value beh (beq_iff_eq.1 default.2),
            ← Begins.eq_kind ⟨declared, slot, begins', of_kind⟩ inv]
          exact beq_self_eq_true s
      · next notEarlier =>
        refine safe_pure fun inv begins => ?_
        obtain ⟨declared, slot, begins', -⟩ := begins
        exact absurd (inv.typed.laidOut.defaults t declared s (List.mem_of_getElem? begins')).1
          notEarlier
  · rw [initialValue]
    refine (safe.obedient.initial code w).imp (fun _ _ => trivial) ?_
    intro inv begins _ grown sound accepted
    obtain ⟨before, extends_⟩ := grown accepted
    obtain ⟨-, slot, begins', of_kind⟩ := (begins before).mono (inv before) extends_
    exact ⟨sound accepted, safe.initial code w accepted t slot kind begins' of_kind⟩

/-- The first values of some fields. -/
theorem safe_inits (safe : SafeBehaviour beh) {t : TypeId}
    (instances : ∀ s < t, ∀ w : World Code Memory,
      Safe (newInstance beh s) w (s < w.types.size) fun w' v => w'.Sound v)
    (inits : List (FieldInit Code)) (kinds : List ValueKind) (w : World Code Memory) :
    Safe (inits.mapM (initialValue beh t)) w (List.Forall₂ (Begins w t) inits kinds)
      fun w' vs => (∀ v ∈ vs, w'.Sound v) ∧ w'.AcceptsAll kinds vs := by
  induction inits generalizing kinds w with
  | nil =>
    rw [List.mapM_nil]
    refine safe_pure fun _ begin_ => ?_
    cases begin_
    exact ⟨nofun, .nil⟩
  | cons init inits ih =>
    rw [List.mapM_cons]
    refine .bind ((safe_initialValue safe instances init (kinds.headD .any) w).given ?_)
      fun v w' => ?_
    · rintro - ⟨⟩
      assumption
    refine .bind ((ih kinds.tail w').given ?_) fun vs w'' => ?_
    · rintro - ⟨inv, before, grown, -⟩
      cases before with
      | cons _ rest => exact rest.imp fun _ _ begins => begins.mono inv grown
    · -- The first value was made before the others, in a world that has grown since.
      refine safe_pure ?_
      rintro - ⟨inv', ⟨inv, before, grown, sound, accepted⟩, grown', sounds, accepteds⟩
      cases before with
      | cons _ rest =>
        refine ⟨?_, .cons (World.accepts_of_extends inv'.typed grown' accepted) accepteds⟩
        intro u member
        rcases List.mem_cons.1 member with rfl | later
        · exact World.sound_of_extends inv'.typed grown' sound
        · exact sounds u later

/-! ## 3. Instances -/

theorem begins_inits (inv : w.Invariant) {t : TypeId} (declared : t < w.types.size) :
    List.Forall₂ (Begins w t) (w.types.info t).inits (w.types.fieldKinds t) := by
  have suits := List.forall₂_iff_get.1 (inv.typed.laidOut.inits t declared)
  refine List.forall₂_iff_get.2 ⟨suits.1, fun slot inside inside' => ?_⟩
  exact ⟨declared, slot, List.getElem?_eq_getElem inside, List.getElem?_eq_getElem inside'⟩

/-- A new instance is sound. -/
theorem safe_newInstance (safe : SafeBehaviour beh) (t : TypeId) (w : World Code Memory) :
    Safe (newInstance beh t) w (t < w.types.size) fun w' v => w'.Sound v := by
  induction t using Nat.strongRecOn generalizing w with
  | ind t ih =>
    rw [newInstance]
    refine .gets_bind (Safe.bind ((safe_inits safe ih (w.types.info t).inits (w.types.fieldKinds t)
      w).given fun inv declared => begins_inits inv declared) fun fields w' => ?_)
    -- Code may have declared types by now, but not changed this one.
    have kinds (inv : w.Invariant) (declared : t < w.types.size) (grown : w.Extends w') :
        w'.types.fieldKinds t = w.types.fieldKinds t :=
      inv.typed.laidOut.fieldKinds_eq grown.types declared
    rcases w.types.kind t with _ | _
    · refine .of_outcome rfl rfl ?_
      rintro inv' ⟨inv, declared, grown, sound, accepted⟩
      have declared' := Nat.lt_of_lt_of_le declared grown.types.size
      have extended := World.extends_allocate w' (.object t) fields.toArray
      refine ⟨World.invariant_allocate inv' ?_ ⟨?_, ?_⟩, extended, .object (t := t) ?_⟩
      · rintro _ ⟨⟩
        exact declared'
      · exact fun v member => sound v (by simpa using member)
      · rintro _ ⟨⟩
        rw [kinds inv declared grown]
        exact accepted
      · exact (World.shape?_allocate w' (.object t) fields.toArray _).trans (if_pos rfl)
    · refine safe_pure ?_
      rintro inv' ⟨inv, declared, grown, sound, accepted⟩
      refine .struct (Nat.lt_of_lt_of_le declared grown.types.size) ?_ sound
      rw [kinds inv declared grown]
      exact accepted

/-! ## 4. Defaults -/

/-- The default of a kind is accepted by it only if a new instance in it is a struct. -/
theorem hasDefault_of_accepted {kind : ValueKind} (accepted : DefaultAccepted beh w kind) :
    w.types.HasDefault kind := by
  rintro t rfl
  rcases kind : w.types.kind t with _ | _
  · unfold DefaultAccepted defaultValue at accepted
    rw [outcome_newInstance_reference beh kind] at accepted
    cases accepted
  · exact beq_iff_eq.2 kind

end ObjectGraph.Client
