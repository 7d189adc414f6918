import ObjectGraph.Proofs.Access.Discipline
import ObjectGraph.Proofs.Client.Operations
import ObjectGraph.Proofs.Client.Procedure

/-!
# Commands spare what is borrowed

Whatever a command does, and whatever code it runs, it leaves alone all storages that are in use.
Each of its own accesses asks for the storage first; the answer tells if that was refused.

1. `World.Spares`: changes that leave the storages in use alone;
2. `protects`: the discipline of leaving them alone;
3. `Accessing`: single accesses to a storage;
4. `Answers`, `Honours`: what the answer to a command tells of its accesses;
5. `protects_setElement`, `protects_newInstance`, `protects_set`: the commands, one by one;
6. `protects_runCommand`: all commands but those on a cursor.
-/

namespace ObjectGraph

/-! ## 1. Sparing storages -/

namespace World

variable {Code Host : Type}

/-- All storages are in use in the second world as in the first, those in use hold the same, and all
that exists is still there. -/
structure Spares (w w' : World Code Host) : Prop where
  borrows : w.SameBorrows w'
  cells : ∀ id, w.borrow id ≠ .free → w'.cells id = w.cells id
  shapes : ∀ a shape, w.shape? a = some shape → w'.shape? a = some shape

variable {w w' w'' : World Code Host}

theorem Spares.refl (w : World Code Host) : w.Spares w :=
  ⟨.refl w, fun _ _ => rfl, fun _ _ here => here⟩

theorem Spares.trans (first : w.Spares w') (second : w'.Spares w'') : w.Spares w'' := by
  refine ⟨first.borrows.trans second.borrows, fun id used => ?_,
    fun a shape here => second.shapes a shape (first.shapes a shape here)⟩
  rw [← first.borrows id] at used
  exact (second.cells id used).trans (first.cells id (by rwa [first.borrows id] at used))

theorem spares_modifyCells {id : StorageId} (free : w.borrow id = .free)
    (f : Array Value → Array Value) : w.Spares (w.modifyCells id f) := by
  refine ⟨fun other => borrow_modifyCells w id other f, fun other used => ?_,
    fun a shape here => (shape?_update w id _ a).trans here⟩
  refine cells_modifyCells_of_ne w f fun same => used ?_
  rw [← same]
  exact free

theorem spares_write {l : Location} (free : w.borrow l.storage = .free) (v : Value) :
    w.Spares (w.write l v) :=
  spares_modifyCells free _

theorem spares_host (w : World Code Host) (host : Host) : w.Spares { w with host } :=
  ⟨fun _ => rfl, fun _ _ => rfl, fun _ _ here => here⟩

theorem borrow_of_unused {id : StorageId} (unused : ¬ w.inUse id) : w.borrow id = .free := by
  rw [borrow, storage_of_unused unused]

theorem inUse_of_used {id : StorageId} (used : w.borrow id ≠ .free) : w.inUse id :=
  Classical.byContradiction fun unused => used (borrow_of_unused unused)

theorem inUse_of_shape? {a : Address} {shape : Shape} (here : w.shape? a = some shape) :
    w.inUse (.entity a) := by
  obtain ⟨e, existed, -⟩ := Option.map_eq_some_iff.1 here
  exact (Array.getElem?_eq_some_iff.1 existed).1

theorem borrow_allocate (w : World Code Host) (shape : Shape) (cells : Array Value)
    (id : StorageId) : (w.allocate shape cells).2.borrow id = w.borrow id := by
  by_cases used : w.inUse id
  · rw [borrow, storage_allocate shape cells used, borrow]
  · rw [borrow_of_unused used]
    by_cases here : id = .entity w.entities.size
    · subst here
      simp [allocate, borrow, storage]
    · refine borrow_of_unused fun used' => ?_
      cases id with
      | entity a =>
        have apart : a ≠ w.entities.size := fun same => here (by rw [same])
        simp only [inUse, allocate, Array.size_push] at used'
        exact used (Nat.lt_of_le_of_ne (Nat.le_of_lt_succ used') apart)
      | statics t => exact used used'

theorem spares_allocate (w : World Code Host) (shape : Shape) (cells : Array Value) :
    w.Spares (w.allocate shape cells).2 := by
  refine ⟨borrow_allocate w shape cells, fun id used => ?_, (extends_allocate w shape cells).shapes⟩
  refine cells_allocate_of_ne w shape cells ?_
  rintro rfl
  exact used (borrow_of_unused (Nat.lt_irrefl _))

theorem storage_declare {b : TypeBuilder Code} {t : TypeId} (declared : w.declare b = .ok (t, w'))
    {id : StorageId} (used : w.inUse id) : w'.storage id = w.storage id := by
  obtain ⟨-, statics, entities, -⟩ := declare_eq declared
  cases id with
  | entity a => rw [storage, storage, entities]
  | statics s =>
    simp only [inUse] at used
    rw [storage, storage, statics, Array.getElem?_push_lt used, Array.getElem?_eq_getElem used]

theorem spares_declare {b : TypeBuilder Code} {t : TypeId} (declared : w.declare b = .ok (t, w')) :
    w.Spares w' := by
  refine ⟨fun id => ?_, fun id used => ?_, (extends_declare declared).shapes⟩
  · by_cases used : w.inUse id
    · rw [borrow, storage_declare declared used, borrow]
    · obtain ⟨-, statics, entities, -⟩ := declare_eq declared
      rw [borrow_of_unused used]
      cases id with
      | entity a =>
        refine borrow_of_unused ?_
        rwa [inUse, entities]
      | statics s =>
        simp only [inUse, Nat.not_lt] at used
        rw [borrow, storage, statics, Array.getElem?_push]
        split
        · rfl
        · rw [Array.getElem?_eq_none used]
          rfl
  · rw [cells, storage_declare declared (inUse_of_used used), cells]

theorem shape?_of_used {a : Address} (used : w.borrow (.entity a) ≠ .free) :
    ∃ shape, w.shape? a = some shape := by
  have existed : w.inUse (.entity a) := inUse_of_used used
  exact ⟨w.entities[a].shape, by rw [shape?, Array.getElem?_eq_getElem existed]; rfl⟩

theorem Calm.mono {start : World Code Host} (calm : start.Calm w) (borrows : w.SameBorrows w')
    (shapes : ∀ a shape, w.shape? a = some shape → w'.shape? a = some shape) :
    start.Calm w' := by
  refine ⟨fun a t here used => ?_, fun t => (borrows _).trans (calm.statics t)⟩
  rw [borrows] at used
  obtain ⟨shape, existed⟩ := shape?_of_used (w := w) (a := a) (by rw [used]; exact nofun)
  have still := shapes a shape existed
  rw [here] at still
  cases still
  exact calm.objects a t existed used

end World

namespace Client

variable {Code α ε : Type} {start w : World Code Memory} {beh : Behaviour Code Memory} {P : Prop}

open ObjectGraph.Action PathAccess

/-! ## 2. The discipline -/

/-- The ledger is true, what guards have for writing is being written, and all else is calm. -/
structure Guarded (start w : World Code Memory) : Prop where
  ledger : w.host.sound
  writing : ∀ guard ∈ w.host.guards, guard.forWriting = true →
    w.borrow (.entity guard.address) = .exclusive
  calm : start.Calm w

theorem Guarded.of_spares {w' : World Code Memory} (guarded : Guarded start w)
    (spares : w.Spares w') (guards : w'.host.guards = w.host.guards) (ledger : w'.host.sound) :
    Guarded start w' := by
  refine ⟨ledger, fun guard open_ writes => ?_,
    guarded.calm.mono spares.borrows spares.shapes⟩
  rw [guards] at open_
  rw [spares.borrows]
  exact guarded.writing guard open_ writes

/-- Storages in use are left alone, and so are the guards of the client. -/
def protects (start : World Code Memory) : PathDiscipline Code Memory where
  holds := Guarded start
  grows w w' := w.Spares w' ∧ w'.host.guards = w.host.guards
  refl w := ⟨.refl w, rfl⟩
  trans := fun ⟨first, guards⟩ ⟨second, guards'⟩ => ⟨first.trans second, guards'.trans guards⟩
  good _ _ := True
  allowed _ := True
  mono _ _ _ := trivial
  others _ _ := trivial
  read _ _ _ _ := trivial
  readFault _ _ _ _ := trivial
  write {w _ _ v l} guarded _ _ _ writable _ := by
    have spares := World.spares_write writable.unused v
    have host := World.host_write w l v
    exact ⟨guarded.of_spares spares (by rw [host]) (by rw [host]; exact guarded.ledger), spares,
      by rw [host]⟩
  writeFault _ _ _ := trivial

/-- Run in `w`, given `P`, the action leaves the storages in use alone and has a result with `Q`. -/
abbrev Protects (start : World Code Memory) (x : Act Code α) (w : World Code Memory) (P : Prop)
    (Q : World Code Memory → α → Prop) : Prop :=
  Obeys (protects start).toDiscipline x w P Q

/-- An action that spares the storages, and leaves the memory alone. -/
theorem protects_of_spares {x : Act Code α} {Q : World Code Memory → α → Prop}
    (spares : w.Spares (x.outcome w).2) (host : (x.outcome w).2.host = w.host)
    (h : P → Q (x.outcome w).2 (x.outcome w).1) : Protects start x w P Q := by
  intro guarded given_
  exact ⟨guarded.of_spares spares (by rw [host]) (by rw [host]; exact guarded.ledger),
    ⟨spares, by rw [host]⟩, h given_⟩

/-- What is known of the result from elsewhere. -/
theorem Protects.with_result {x : Act Code α} {R : α → Prop}
    (protected_ : Protects start x w P fun _ _ => True)
    (h : Guarded start w → P → R (x.outcome w).1) : Protects start x w P fun _ a => R a :=
  protected_.imp (fun _ given_ => given_) fun guarded given_ _ _ _ => h guarded given_

/-! ## 3. Single accesses -/

/-- The access is refused if the storage is not to be had, and then it changes nothing. Otherwise it
changes no storage that is in use, and fails for no want of the storage. -/
structure Accessing (x : Act Code (Except ε α)) (w : World Code Memory) (id : StorageId)
    (writes : Bool) (busy : ε) : Prop where
  blocked : (w.borrow id).Blocks writes → x.outcome w = (.error busy, w)
  passed : ¬ (w.borrow id).Blocks writes → (x.outcome w).1 ≠ .error busy ∧
    w.Spares (x.outcome w).2 ∧ (x.outcome w).2.host = w.host

theorem accessing_readSlot (id : StorageId) (slot : Nat) (w : World Code Memory) :
    Accessing (readSlot id slot) w id false .busy := by
  constructor <;> rw [Borrow.blocks_false, outcome_readSlot] <;> intro state
  · rw [if_pos state]
  · rw [if_neg state]
    refine ⟨fun failed => ?_, .refl w, rfl⟩
    cases (slotOf_error failed).1

theorem accessing_elements (a : Address) (w : World Code Memory) :
    Accessing (elements a) w (.entity a) false .borrowed := by
  constructor <;> rw [Borrow.blocks_false, outcome_elements] <;> intro state
  · rw [if_pos state]
  · rw [if_neg state]
    exact ⟨nofun, .refl w, rfl⟩

theorem accessing_elementAt (a : Address) (index : UInt64) (w : World Code Memory) :
    Accessing (elementAt a index) w (.entity a) false (.storage .busy) := by
  constructor <;> rw [Borrow.blocks_false, outcome_elementAt] <;> intro state
  · rw [if_pos state]
  · rw [if_neg state]
    refine ⟨fun failed => ?_, .refl w, rfl⟩
    cases (elementOf_error failed).1

theorem accessing_writeSlot (id : StorageId) (slot : Nat) (v : Value) (w : World Code Memory) :
    Accessing (writeSlot id slot v) w id true .busy := by
  constructor <;> rw [Borrow.blocks_true, outcome_writeSlot] <;> intro state
  · rw [if_neg state]
  · rw [not_not] at state
    rw [if_pos state]
    split
    · exact ⟨nofun, World.spares_write (l := ⟨id, slot⟩) state v, World.host_write ..⟩
    · exact ⟨nofun, .refl w, rfl⟩

theorem accessing_setElementAt (a : Address) (index : UInt64) (v : Value)
    (w : World Code Memory) :
    Accessing (setElementAt a index v) w (.entity a) true (.storage .busy) := by
  constructor <;> rw [Borrow.blocks_true, outcome_setElementAt] <;> intro state
  · rw [if_neg state]
  · rw [not_not] at state
    rw [if_pos state]
    split
    · exact ⟨nofun, World.spares_write (l := ⟨.entity a, index.toNat⟩) state v,
        World.host_write ..⟩
    · exact ⟨nofun, .refl w, rfl⟩

theorem accessing_resize (a : Address) (f : Array Value → Array Value) (result : Array Value → α)
    (w : World Code Memory) : Accessing (resize a f result) w (.entity a) true .borrowed := by
  constructor <;> rw [Borrow.blocks_true, outcome_resize] <;> intro state
  · rw [if_neg state]
  · rw [not_not] at state
    rw [if_pos state]
    exact ⟨nofun, World.spares_modifyCells state f, World.host_modifyCells ..⟩

/-! ## 4. Answers -/

/-- The answer to a command that accesses these storages: it is a refusal if one of them is not to
be had, and only then it says that a storage is in use. -/
structure Answers (w : World Code Memory) (accesses : StorageId → Bool → Prop)
    (response : Response) : Prop where
  refused : ∀ id writes, accesses id writes → (w.borrow id).Blocks writes →
    Refused writes response
  busy : ∀ failure, response = .error failure → failure.IsBusy →
    ∃ id writes, accesses id writes ∧ (w.borrow id).Blocks writes

/-- One storage is accessed, or none. -/
def Only (access : Option (StorageId × Bool)) (id : StorageId) (writes : Bool) : Prop :=
  access = some (id, writes)

theorem answers_ok {vs : List Value} : Answers w (Only none) (.ok vs) := by
  constructor
  · rintro _ _ ⟨⟩
  · rintro _ ⟨⟩

theorem answers_error {failure : Failure} (quiet : ¬ failure.IsBusy) :
    Answers w (Only none) (.error failure) := by
  refine ⟨nofun, ?_⟩
  rintro _ ⟨⟩ busy
  exact absurd busy quiet

/-- The answer tells of an access what the failure of the access does. -/
theorem Accessing.protects {x : Act Code (Except ε α)} {id : StorageId} {writes : Bool} {busy : ε}
    (accessing : Accessing x w id writes busy) (failure : ε → Failure) (values : α → List Value)
    (isBusy : ∀ e, (failure e).IsBusy ↔ e = busy) :
    Protects start (do return respond failure values (← x)) w P
      fun _ response => Answers w (Only (some (id, writes))) response := by
  by_cases blocked : (w.borrow id).Blocks writes
  · have refused : (do return respond failure values (← x) : Act Code Response).outcome w =
        (.error (failure busy), w) := by
      rw [outcome_bind, accessing.blocked blocked]
      rfl
    refine .of_result refused fun _ _ => ⟨?_, fun _ _ _ => ⟨id, writes, rfl, blocked⟩⟩
    rintro _ _ ⟨⟩ -
    exact ⟨failure busy, rfl, .inl ((isBusy busy).2 rfl)⟩
  · obtain ⟨notBusy, spares, host⟩ := accessing.passed blocked
    refine protects_of_spares spares host fun _ => ⟨?_, fun cause failed reported => ?_⟩
    · rintro _ _ ⟨⟩ blocked'
      exact absurd blocked' blocked
    · have answer : respond failure values (x.outcome w).1 = .error cause := failed
      rcases result : (x.outcome w).1 with e | a
      · rw [result] at answer notBusy
        cases answer
        exact absurd (congrArg Except.error ((isBusy e).1 reported)) notBusy
      · rw [result] at answer
        cases answer

/-! ## 5. Commands -/

section

variable {o value : Operand}

theorem protects_onCollection {writes : Bool} {body : Address → Act Code Response}
    (h : ∀ a, Protects start (body a) w P
      fun _ response => Answers w (Only (some (.entity a, writes))) response) :
    Protects start (onCollection o body) w P fun _ response =>
      Answers w (Only ((o.value w.host).collection?.map fun a => (.entity a, writes)))
        response := by
  refine obeys_onCollection (fun other => ?_) fun a here => ?_
  · rw [other]
    exact answers_error id
  · rw [here]
    exact h a

theorem protects_onList {writes : Bool} {body : Address → Act Code Response}
    (h : ∀ a, Protects start (body a) w P
      fun _ response => Answers w (Only (some (.entity a, writes))) response) :
    Protects start (onList o body) w P fun _ response =>
      Answers w (Only (match o.value w.host with | .list a => some (.entity a, writes) | _ => none))
        response := by
  refine obeys_onList (fun other => ?_) fun a here => ?_
  · split
    · next a here => exact absurd here (other a)
    · exact answers_error id
  · rw [here]
    exact h a

theorem protects_readSlotOf (slot : Nat) :
    Protects start (readSlotOf o slot) w P fun _ response =>
      Answers w
        (Only (match o.value w.host with | .object a => some (.entity a, false) | _ => none))
        response := by
  unfold readSlotOf
  refine Obeys.valueOf_bind ?_
  rcases o.value w.host with _ | _ | _ | _ | _ | _ | _ | a | _ | _
  case object => exact (accessing_readSlot (.entity a) slot w).protects _ _ fun _ => Iff.rfl
  case struct => exact obeys_pure fun _ _ => answers_ok
  all_goals exact obeys_pure fun _ _ => answers_error id

theorem protects_writeSlotOf (slot : Nat) :
    Protects start (runCommand beh (.writeSlot o slot value)) w P fun _ response =>
      Answers w (Only (match o.value w.host with | .object a => some (.entity a, true) | _ => none))
        response := by
  refine Obeys.valueOf_bind ?_
  rcases o.value w.host with _ | _ | _ | _ | _ | _ | _ | a | _ | _
  case object =>
    refine Obeys.valueOf_bind ?_
    exact (accessing_writeSlot (.entity a) slot _ w).protects _ _ fun _ => Iff.rfl
  all_goals exact obeys_pure fun _ _ => answers_error id

theorem outcome_objectField? (a : Address) (name : String) (w : World Code Memory) :
    (objectField? a name).outcome w =
      ((fieldLocation? w (.object a) name).bind fun l =>
        if w.borrow l.storage = .exclusive then none else w.read? l, w) := by
  rw [objectField?, outcome_bind, outcome_getWorld, fieldLocation?]
  rcases (w.typeOf? (.object a)).bind fun t => w.types.instanceField? t name with _ | field
  · rfl
  simp only [outcome_bind, outcome_readSlot, outcome_pure, Option.map_some, Option.bind_some]
  by_cases used : w.borrow (.entity a) = .exclusive
  · rw [if_pos used, if_pos used]
    rfl
  · rw [if_neg used, if_neg used, World.read?, slotOf]
    rcases (w.cells (.entity a))[field.1]? with _ | v <;> rfl

theorem outcome_readField (name : String) :
    ∃ response, (readField o name).outcome w = (response, w) ∧
      (∀ failure, response = .error failure → ¬ failure.IsBusy) ∧
      ∀ l, fieldLocation? w (o.value w.host) name = some l →
        response = .ok (if w.borrow l.storage = .exclusive then [] else (w.read? l).toList) := by
  have operand : (valueOf o).outcome w = (o.value w.host, w) := rfl
  rw [readField, outcome_bind, operand]
  dsimp only
  rcases o.value w.host with _ | _ | _ | _ | _ | _ | ⟨t, fields⟩ | a | _ | _
  case object =>
    simp only [outcome_bind, outcome_objectField?, outcome_pure]
    refine ⟨_, rfl, by rintro _ ⟨⟩, fun l here => ?_⟩
    rw [here, Option.bind_some]
    split <;> rfl
  case struct => exact ⟨_, rfl, by rintro _ ⟨⟩, by rintro _ ⟨⟩⟩
  all_goals
    exact ⟨.error .notApplicable, rfl, fun _ failed => by cases failed; exact id, by rintro _ ⟨⟩⟩

theorem ne_storage_of_fieldFor {t : TypeId} {name : String} {v : Value} {e : WriteError}
    (failed : fieldFor w t name v = .error e) (cause : StorageError) : e ≠ .storage cause := by
  unfold fieldFor at failed
  split at failed
  · cases failed
    exact nofun
  · split at failed
    · cases failed
    · cases failed
      exact nofun

/-- A struct is not in any storage. -/
theorem ne_busy_of_setStructField {t : TypeId} {fields : List Value} {name : String} {v : Value}
    {e : WriteError} (failed : setStructField w t fields name v = .error e) :
    e ≠ .storage .busy := by
  unfold setStructField at failed
  split at failed
  · next field =>
    cases failed
    exact ne_storage_of_fieldFor field .busy
  · split at failed
    · cases failed
    · cases failed
      exact nofun

/-- Writing a field fails because of the field, or is writing its slot. -/
theorem setObjectField_cases (a : Address) (name : String) (v : Value) (w : World Code Memory) :
    (∃ e, (∀ cause, e ≠ WriteError.storage cause) ∧
      (setObjectField a name v).outcome w = (.error e, w)) ∨
    ∃ slot, (setObjectField a name v).outcome w =
      ((writeSlot (.entity a) slot v).outcome w).map (·.mapError .storage) id := by
  unfold setObjectField
  rw [outcome_bind, outcome_getWorld]
  rcases w.typeOf? (.object a) with _ | t
  · exact .inl ⟨.missingField _ name, nofun, rfl⟩
  rcases field : fieldFor w t name v with e | slot
  · refine .inl ⟨e, ne_storage_of_fieldFor field, ?_⟩
    simp only [field]
    rfl
  · refine .inr ⟨slot, ?_⟩
    simp only [field, outcome_bind]
    rcases (writeSlot (.entity a) slot v).outcome w with ⟨e | done, w'⟩ <;> rfl

theorem protects_setObjectField (a : Address) (name : String) (v : Value) :
    Protects start (do return respond .write (fun _ => []) (← setObjectField a name v)) w P
      fun _ response => Answers w (Only (some (.entity a, true))) response := by
  rcases setObjectField_cases a name v w with ⟨e, check, failed⟩ | ⟨slot, written⟩
  · have answer : (do return respond .write (fun _ => []) (← setObjectField a name v) :
        Act Code Response).outcome w = (.error (.write e), w) := by
      rw [outcome_bind, failed]
      rfl
    refine .of_result answer fun _ _ => ⟨?_, ?_⟩
    · rintro _ _ ⟨⟩ -
      exact ⟨.write e, rfl, .inr ⟨rfl, check⟩⟩
    · rintro _ ⟨⟩ busy
      exact absurd busy (check .busy)
  · have slots := accessing_writeSlot (.entity a) slot v w
    have accessing : Accessing (setObjectField a name v) w (.entity a) true (.storage .busy) := by
      constructor <;> intro state <;> rw [written]
      · rw [slots.blocked state]
        rfl
      · obtain ⟨notBusy, spares, host⟩ := slots.passed state
        refine ⟨fun failed => notBusy ?_, spares, host⟩
        obtain ⟨e, result, same⟩ := eq_error_of_mapError failed
        cases same
        exact result
    exact accessing.protects _ _ fun _ => Iff.rfl

theorem protects_writeField (name : String) :
    Protects start (writeField o name value) w P fun _ response =>
      Answers w (Only (match o.value w.host with | .object a => some (.entity a, true) | _ => none))
        response := by
  unfold writeField
  refine Obeys.valueOf_bind (Obeys.valueOf_bind ?_)
  rcases o.value w.host with _ | _ | _ | _ | _ | _ | ⟨t, fields⟩ | a | _ | _
  case object => exact protects_setObjectField a name _
  case struct =>
    refine .getWorld_bind (obeys_pure fun _ _ => ?_)
    rcases written : setStructField w t fields name (value.value w.host) with e | fields'
    · exact answers_error (ne_busy_of_setStructField written)
    · exact answers_ok
  all_goals exact obeys_pure fun _ _ => answers_error id

theorem protects_modifyMemory {f : Memory → Memory} (guards : ∀ m, (f m).guards = m.guards)
    (ledger : ∀ m, (f m).sound = m.sound) :
    Protects start (modifyMemory f) w P fun _ _ => True := by
  refine .of_outcome rfl fun guarded _ => ?_
  have spares := w.spares_host (f w.host)
  refine ⟨guarded.of_spares spares (guards w.host) ?_, ⟨spares, guards w.host⟩, trivial⟩
  show (f w.host).sound
  rw [ledger]
  exact guarded.ledger

theorem protects_declareType (kind : TypeKind) (name : String) (clauses : List (Clause Code)) :
    Protects start (declareType beh kind name clauses) w P
      fun _ response => Answers w (Only none) response := by
  unfold declareType
  refine .getWorld_bind ?_
  split
  case isFalse => exact obeys_pure fun _ _ => answers_error id
  rcases declared : w.declare (.ofClauses kind name clauses) with e | ⟨t, w'⟩
  · exact obeys_pure fun _ _ => answers_error id
  obtain ⟨-, -, -, host⟩ := World.declare_eq declared
  refine .bind (protects_of_spares (Q := fun _ _ => True) (World.spares_declare declared) host
    fun _ => trivial) fun _ w'' => ?_
  exact .bind (protects_modifyMemory (fun _ => rfl) fun _ => rfl)
    fun _ _ => obeys_pure fun _ _ => answers_ok

theorem protects_allocateItems (items : List Operand) (shape : Shape) (handle : Address → Value) :
    Protects start (allocateItems items shape handle) w P
      fun _ response => Answers w (Only none) response := by
  have made := outcome_allocateItems items shape handle w
  refine protects_of_spares ?_ ?_ fun _ => ?_ <;> rw [made]
  · exact w.spares_allocate shape _
  · rfl
  · exact answers_ok

theorem protects_onGuard (i : Nat) {body : Guard → Array Value → Act Code Response}
    (h : ∀ guard cells, Protects start (body guard cells) w P
      fun _ response => Answers w (Only none) response) :
    Protects start (onGuard i body) w P fun _ response => Answers w (Only none) response :=
  obeys_onGuard (answers_error id) fun guard _ => h guard _

end

section

variable (obedient : Obedient (protects start) beh)
include obedient

theorem protects_initialValue {t : TypeId}
    (instances : ∀ s < t, ∀ w : World Code Memory,
      Protects start (newInstance beh s) w True fun _ _ => True)
    (init : FieldInit Code) (w : World Code Memory) :
    Protects start (initialValue beh t init) w True fun _ _ => True := by
  rcases init with k | code
  · by_cases struct : ∃ s, k = .struct s
    case neg =>
      obtain ⟨datum, begun, -⟩ := initialValue_default beh t (not_exists.1 struct)
      rw [begun]
      exact obeys_pure fun _ _ => trivial
    case pos =>
      obtain ⟨s, rfl⟩ := struct
      rw [initialValue]
      split
      · next earlier => exact instances s earlier w
      · exact obeys_pure fun _ _ => trivial
  · rw [initialValue]
    exact obedient.initial code w

theorem protects_inits {t : TypeId}
    (instances : ∀ s < t, ∀ w : World Code Memory,
      Protects start (newInstance beh s) w True fun _ _ => True)
    (inits : List (FieldInit Code)) (w : World Code Memory) :
    Protects start (inits.mapM (initialValue beh t)) w True fun _ _ => True := by
  induction inits generalizing w with
  | nil =>
    rw [List.mapM_nil]
    exact obeys_pure fun _ _ => trivial
  | cons init inits ih =>
    rw [List.mapM_cons]
    refine .bind (protects_initialValue obedient instances init w) fun v w' => ?_
    exact .bind ((ih w').given fun _ _ => trivial) fun vs w'' => obeys_pure fun _ _ => trivial

/-- Creating an instance runs code, and so do the instances inside it. -/
theorem protects_newInstance (t : TypeId) (w : World Code Memory) :
    Protects start (newInstance beh t) w True fun _ _ => True := by
  induction t using Nat.strongRecOn generalizing w with
  | ind t ih =>
    rw [newInstance]
    refine .gets_bind (.bind (protects_inits obedient ih (w.types.info t).inits w)
      fun fields w' => ?_)
    rcases w.types.kind t with _ | _
    · exact protects_of_spares (w'.spares_allocate _ _) rfl fun _ => trivial
    · exact obeys_pure fun _ _ => trivial

theorem protects_create (t : TypeId) :
    Protects start (runOperation beh (.create t)) w P
      fun _ response => Answers w (Only none) response := by
  refine .getWorld_bind ?_
  split
  · exact .bind ((protects_newInstance obedient t w).given fun _ _ => trivial)
      fun v w' => obeys_pure fun _ _ => answers_ok
  · exact obeys_pure fun _ _ => answers_error id

/-- A deferred write asks for the storage that its token names, after it has looked at the value. -/
theorem protects_writeDeferred (container value : Operand) (token : Token) :
    Protects start (runOperation beh (.write container token value)) w P fun _ response =>
      Answers w (Only (match w.place (container.value w.host) token with
        | .cell l => some (l.storage, true)
        | _ => none)) response := by
  have ran : (runOperation beh (.write container token value)).outcome w =
      ((DeferredWrite.apply beh ⟨container.value w.host, token⟩ (value.value w.host)).outcome w).map
        (respond .fault fun _ => []) id := rfl
  refine Protects.with_result (R := fun response => Answers w _ response) ?_ fun _ _ => ?_
  · refine Obeys.valueOf_bind (Obeys.valueOf_bind ?_)
    exact .bind ((obeys_apply obedient _ token _ w).given fun _ _ => ⟨trivial, trivial⟩)
      fun _ _ => obeys_pure fun _ _ => trivial
  rw [ran]
  rcases applied : (DeferredWrite.apply beh ⟨container.value w.host, token⟩
    (value.value w.host)).outcome w with ⟨result, w'⟩
  refine ⟨fun id writes here used => ?_, fun failure failed busy => ?_⟩
  · unfold Only at here
    split at here
    · next l place =>
      cases here
      obtain ⟨fault, refused, cause⟩ :=
        DeferredWrite.outcome_apply_of_used beh (value.value w.host) place used
      rw [applied] at refused
      cases refused
      refine ⟨.fault fault, rfl, cause.imp id fun ⟨expected, mismatch⟩ => ⟨rfl, ?_⟩⟩
      exact ⟨expected, _, mismatch⟩
    · cases here
  · rcases result with fault | done
    · cases failed
      obtain rfl : fault = .reentrant := busy
      rcases DeferredWrite.apply_error applied with ⟨-, cause⟩ | ⟨_, ⟨⟩⟩
      obtain ⟨l, place, used⟩ := busy_of_refuses cause
      exact ⟨l.storage, true, by rw [Only, place], used⟩
    · cases failed

omit obedient in
theorem outcome_fromRoot (values : α → List Value) (root : Value)
    (call : Act Code (Except AccessError α)) (w : World Code Memory) :
    (do return respondAccess values (← fromRoot root call) : Act Code Response).outcome w =
      if root.isNull then (.error (.misuse .nullRoot), w)
      else (call.outcome w).map (respond .access values) id := by
  unfold fromRoot
  split <;> rfl

omit obedient in
/-- A command along a path answers as the call does, if the path does not begin at null. -/
theorem protects_fromRoot (values : α → List Value) {root : Value}
    {call : Act Code (Except AccessError α)} {accesses : StorageId → Bool → Prop}
    (spared : Protects start call w True fun _ _ => True)
    (refused : Guarded start w → ∀ id writes, accesses id writes → (w.borrow id).Blocks writes →
      root.isNull = false ∧ ∃ e w', call.outcome w = (.error e, w') ∧
        (e.fault = .reentrant ∨ (writes = true ∧ (Failure.access e).IsCheck)))
    (busy : Guarded start w → ∀ e w', call.outcome w = (.error e, w') → e.fault = .reentrant →
      ∃ id writes, accesses id writes ∧ (w.borrow id).Blocks writes) :
    Protects start (do return respondAccess values (← fromRoot root call)) w P
      fun _ response => Answers w accesses response := by
  refine Protects.with_result ?_ fun guarded _ => ?_
  · refine obeys_fromRoot trivial ?_
    exact .bind (spared.given fun _ _ => trivial) fun _ _ => obeys_pure fun _ _ => trivial
  rw [outcome_fromRoot]
  refine ⟨fun id writes accessed used => ?_, fun failure failed isBusy => ?_⟩
  · obtain ⟨notNull, e, w', failed, cause⟩ := refused guarded id writes accessed used
    rw [notNull, failed]
    exact ⟨.access e, rfl, cause⟩
  · split at failed
    · cases failed
      cases isBusy
    · rcases called : call.outcome w with ⟨e | a, w'⟩
      · rw [called] at failed
        cases failed
        exact busy guarded e w' called isBusy
      · rw [called] at failed
        cases failed

variable {options : AccessOptions} {root value : Operand} {path : String}

/-- What code has done on the way has spared the storages in use. -/
theorem spares_of_arrives (guarded : Guarded start w) {root container : Value}
    {tokens later : List OffsetToken} {token : OffsetToken} {w₁ : World Code Memory}
    (arrives : Arrives beh options root tokens w container token later w₁) : w.Spares w₁ := by
  obtain ⟨front, -, reached⟩ := arrives
  have walked := obeys_walk obedient options none front root w guarded trivial
  rw [reached] at walked
  exact walked.2.1.1

/-- A token whose location is being written ends the call. -/
theorem getValue_of_used (guarded : Guarded start w) {root container : Value} {token : OffsetToken}
    {later : List OffsetToken} {w₁ : World Code Memory} {l : Location}
    (arrives : Arrives beh options root (scanPath path).tokens w container token later w₁)
    (here : w₁.place container token.token = .cell l)
    (used : (w.borrow l.storage).Blocks (reading later)) :
    (getValue beh options root path).outcome w = (.error (.atToken token .reentrant), w₁) := by
  rw [← (spares_of_arrives obedient guarded arrives).borrows] at used
  exact outcome_getValue_of_arrives arrives (outcome_readStep_of_used beh options here used)

/-- Or else the last token, if its location is in use. -/
theorem set_of_used (guarded : Guarded start w) {root container v : Value} {token : OffsetToken}
    {later : List OffsetToken} {w₁ : World Code Memory} {l : Location}
    (arrives : Arrives beh options root (scanPath path).tokens w container token later w₁)
    (here : w₁.place container token.token = .cell l)
    (used : (w.borrow l.storage).Blocks (writing later)) :
    ∃ e, (set beh options root path v).outcome w = (.error e, w₁) ∧
      (e.fault = .reentrant ∨ (writing later = true ∧ (Failure.access e).IsCheck)) := by
  rw [← (spares_of_arrives obedient guarded arrives).borrows] at used
  cases later with
  | cons next later =>
    exact ⟨_, outcome_set_of_arrives arrives nofun (outcome_readStep_of_used beh options here used),
      .inl rfl⟩
  | nil =>
    obtain ⟨fault, refused, cause⟩ := DeferredWrite.outcome_apply_of_used beh v here used
    obtain ⟨e, failed, rfl | ⟨p, rfl⟩⟩ := set_error_of_arrives arrives refused
    · exact ⟨_, failed, cause.imp id fun ⟨expected, mismatch⟩ =>
        ⟨rfl, .inl ⟨expected, _, mismatch⟩⟩⟩
    · exact ⟨_, failed, .inr ⟨rfl, .inr ⟨_, rfl⟩⟩⟩

theorem protects_get :
    Protects start (runOperation beh (.get options root path)) w P fun _ response =>
      Answers w ((Command.operate (.get options root path)).Accesses beh w) response := by
  refine Obeys.valueOf_bind (protects_fromRoot ([·]) ?_ ?_ ?_)
  · exact (obeys_getValue obedient options _ path w).imp (fun _ _ => trivial)
      fun _ _ _ _ _ => trivial
  · rintro guarded id writes (⟨none_⟩ | ⟨arrives, here⟩) used
    · cases none_
    · exact ⟨arrives.root_isNull here, _, _, getValue_of_used obedient guarded arrives here used,
        .inl rfl⟩
  · intro guarded e w' failed reentrant
    obtain ⟨container, token, later, w₁, l, arrives, -, here, used⟩ :=
      blocked_of_getValue failed reentrant
    rw [(spares_of_arrives obedient guarded arrives).borrows] at used
    exact ⟨l.storage, reading later, .get arrives here, used⟩

theorem protects_view {type : NativeType} :
    Protects start (runCommand beh (.view options type root path)) w P fun _ response =>
      Answers w ((Command.view options type root path).Accesses beh w) response := by
  refine Obeys.valueOf_bind (protects_fromRoot (fun _ => []) ?_ ?_ ?_)
  · exact (obeys_get obedient options type _ path w).imp (fun _ _ => trivial)
      fun _ _ _ _ _ => trivial
  · rintro guarded id writes (⟨none_⟩ | _ | ⟨arrives, here⟩) used
    · cases none_
    · have failed := getValue_of_used obedient guarded arrives here used
      exact ⟨arrives.root_isNull here, _, _, outcome_get_of_error failed, .inl rfl⟩
  · intro guarded e w' failed reentrant
    rcases get_error failed with read | ⟨v, rfl⟩
    · obtain ⟨container, token, later, w₁, l, arrives, -, here, used⟩ :=
        blocked_of_getValue read reentrant
      rw [(spares_of_arrives obedient guarded arrives).borrows] at used
      exact ⟨l.storage, reading later, .view arrives here, used⟩
    · cases reentrant

theorem protects_set :
    Protects start (runOperation beh (.set options root path value)) w P fun _ response =>
      Answers w ((Command.operate (.set options root path value)).Accesses beh w) response := by
  refine Obeys.valueOf_bind (Obeys.valueOf_bind (protects_fromRoot (fun _ => []) ?_ ?_ ?_))
  · exact (obeys_set obedient options _ path _ w).imp (fun _ _ => ⟨trivial, trivial⟩)
      fun _ _ _ _ _ => trivial
  · rintro guarded id writes (⟨none_⟩ | _ | _ | ⟨arrives, here⟩) used
    · cases none_
    · obtain ⟨e, failed, cause⟩ := set_of_used obedient guarded arrives here used
      exact ⟨arrives.root_isNull here, e, _, failed, cause⟩
  · intro guarded e w' failed reentrant
    obtain ⟨container, token, later, w₁, l, arrives, -, here, used⟩ :=
      blocked_of_set failed reentrant
    rw [(spares_of_arrives obedient guarded arrives).borrows] at used
    exact ⟨l.storage, writing later, .set arrives here, used⟩

/-! ## 6. All commands but those on a cursor -/

omit obedient

/-- A command that accesses at most the one storage that is known from it. -/
def Command.IsDirect : Command Code → Prop
  | .operate (.field ..) | .operate (.get ..) | .operate (.set ..) | .view .. => False
  | _ => True

/-- A command that moves a cursor, or writes through it. -/
def Command.UsesCursor : Command Code → Prop
  | .operate (.advance _) | .operate (.replace ..) => True
  | _ => False

/-- What the answer to a command tells of the storages that the command accesses. -/
structure Honours (beh : Behaviour Code Memory) (w : World Code Memory) (command : Command Code)
    (response : Response) : Prop extends Answers w (command.Accesses beh w) response where
  fields : ∀ on name l, command = .operate (.field on name) →
    fieldLocation? w (on.value w.host) name = some l →
    response = .ok (if w.borrow l.storage = .exclusive then [] else (w.read? l).toList)

theorem access_of_direct {command : Command Code} (direct : command.IsDirect) {id : StorageId}
    {writes : Bool} (accessed : command.Accesses beh w id writes) :
    command.access? w = some (id, writes) := by
  cases accessed with
  | direct accessed => exact accessed
  | _ => cases direct

theorem honours_of_direct {command : Command Code} (direct : command.IsDirect)
    {response : Response} (answers : Answers w (Only (command.access? w)) response) :
    Honours beh w command response := by
  refine ⟨⟨fun id writes accessed => ?_, fun failure failed busy => ?_⟩, ?_⟩
  · exact answers.refused id writes (access_of_direct direct accessed)
  · obtain ⟨id, writes, accessed, used⟩ := answers.busy failure failed busy
    exact ⟨id, writes, .direct accessed, used⟩
  · rintro on name l rfl
    cases direct

theorem honours_of_path {command : Command Code} {response : Response}
    (byPath : ∀ on name, command ≠ .operate (.field on name))
    (answers : Answers w (command.Accesses beh w) response) : Honours beh w command response :=
  ⟨answers, fun on name _ same => absurd same (byPath on name)⟩

theorem protects_field (on : Operand) (name : String) :
    Protects start (runCommand beh (.operate (.field on name))) w P
      fun _ response => Honours beh w (.operate (.field on name)) response := by
  obtain ⟨response, read, quiet, found⟩ := outcome_readField (o := on) (w := w) name
  refine .of_result read fun _ _ => ⟨⟨?_, fun failure failed busy => ?_⟩, ?_⟩
  · rintro id writes ⟨none_⟩
    cases none_
  · exact absurd busy (quiet failure failed)
  · rintro _ _ l ⟨⟩ here
    exact found l here

include obedient

/-- Every command but those on a cursor leaves the storages in use alone and says what it has to say
about its own accesses. -/
theorem protects_runCommand (command : Command Code) (plain : command.IsPlain)
    (noCursor : ¬ command.UsesCursor) (w : World Code Memory) :
    Protects start (runCommand beh command) w P
      fun _ response => Honours beh w command response := by
  have direct (h : command.IsDirect)
      (answers : Protects start (runCommand beh command) w P
        fun _ response => Answers w (Only (command.access? w)) response) :
      Protects start (runCommand beh command) w P
        fun _ response => Honours beh w command response :=
    answers.imp (fun _ given_ => given_) fun _ _ _ _ => honours_of_direct h
  have path (h : ∀ on name, command ≠ .operate (.field on name))
      (answers : Protects start (runCommand beh command) w P
        fun _ response => Answers w (command.Accesses beh w) response) :
      Protects start (runCommand beh command) w P
        fun _ response => Honours beh w command response :=
    answers.imp (fun _ given_ => given_) fun _ _ _ _ => honours_of_path h
  cases command with
  | writeSlot on slot value => exact direct trivial (protects_writeSlotOf slot)
  | writeStatic t slot value =>
    refine direct trivial (Obeys.valueOf_bind ?_)
    exact (accessing_writeSlot (.statics t) slot _ w).protects _ _ fun _ => Iff.rfl
  | view options type root path => exact path nofun (protects_view obedient)
  | operate op =>
    cases op with
    | declare kind name clauses =>
      exact direct trivial (.gets_bind (protects_declareType kind name _))
    | create t => exact direct trivial (protects_create obedient t)
    | field on name => exact protects_field on name
    | setField on name value => exact direct trivial (protects_writeField name)
    | slot on slot => exact direct trivial (protects_readSlotOf slot)
    | static t slot =>
      exact direct trivial ((accessing_readSlot (.statics t) slot w).protects _ _ fun _ => Iff.rfl)
    | get options root path' => exact path nofun (protects_get obedient)
    | set options root path' value => exact path nofun (protects_set obedient)
    | write container token value => exact direct trivial (protects_writeDeferred obedient _ _ _)
    | array items => exact direct trivial (protects_allocateItems items .array .array)
    | list items => exact direct trivial (protects_allocateItems items .list .list)
    | push on value =>
      refine direct trivial (protects_onList fun a => Obeys.valueOf_bind ?_)
      exact (accessing_resize a _ _ w).protects _ _ fun _ => Iff.rfl
    | pop on =>
      refine direct trivial (protects_onList fun a => ?_)
      exact (accessing_resize a _ _ w).protects _ _ fun _ => Iff.rfl
    | truncate on len =>
      refine direct trivial (protects_onList fun a => ?_)
      exact (accessing_resize a _ _ w).protects _ _ fun _ => Iff.rfl
    | items on =>
      refine direct trivial (protects_onCollection fun a => ?_)
      exact (accessing_elements a w).protects _ _ fun _ => Iff.rfl
    | element on index =>
      refine direct trivial (protects_onCollection fun a => ?_)
      exact (accessing_elementAt a index w).protects _ _ fun _ => Iff.rfl
    | setElement on index value =>
      refine direct trivial (protects_onCollection fun a => Obeys.valueOf_bind ?_)
      exact (accessing_setElementAt a index _ w).protects _ _ fun _ => Iff.rfl
    | borrow on forWriting => cases plain
    | release guard => cases plain
    | contents i =>
      exact direct trivial (protects_onGuard i fun _ _ => obeys_pure fun _ _ => answers_ok)
    | advance i => exact absurd trivial noCursor
    | current i =>
      exact direct trivial (protects_onGuard i fun _ _ => obeys_pure fun _ _ => answers_ok)
    | replace i value => exact absurd trivial noCursor

end

end Client

end ObjectGraph
