import ObjectGraph.Proofs.Client.Instances

/-!
# Safe operations

Every operation of a client is safe. Reading gives values that are stored somewhere. Writing
checks the kind of the very slot that it writes, whether the slot is found by name in an object,
in a struct, or at the end of a path; collections and what cursors show have no kinds.

1. `sound_value`: operands;
2. `safe_readField`, `safe_writeField`: fields of objects and structs;
3. `safe_onList`, `safe_resize`, `safe_allocateItems`: collections;
4. `safe_borrow`, `safe_onGuard`: guards;
5. `safe_declareType`: declarations;
6. `safe_runOperation`: all operations.
-/

namespace ObjectGraph.Client

open ObjectGraph.Action

variable {Code : Type} {beh : Behaviour Code Memory} {w : World Code Memory} {P : Prop}

/-! ## 1. Operands and answers -/

/-- What a client can name is sound. -/
theorem sound_value (inv : w.Invariant) (o : Operand) : w.Sound (o.value w.host) := by
  cases o with
  | native datum => exact sound_ofNative w datum
  | known i =>
    show w.Sound (w.host.known[i]?.getD .null)
    rcases here : w.host.known[i]? with _ | v
    · exact .null
    · exact inv.known v (List.mem_of_getElem? here)

/-- The values that an operation gives are sound. -/
def SoundResponse (w : World Code Memory) (response : Response) : Prop :=
  ∀ vs, response = .ok vs → ∀ v ∈ vs, w.Sound v

theorem soundResponse_nil (w : World Code Memory) : SoundResponse w (.ok []) := by
  rintro _ ⟨⟩ v member
  cases member

theorem soundResponse_one {v : Value} (sound : w.Sound v) : SoundResponse w (.ok [v]) := by
  rintro _ ⟨⟩ u member
  rw [List.mem_singleton.1 member]
  exact sound

theorem sound_of_result {ε : Type} {u : Value} (sound : SoundResult w (.ok u : Except ε Value)) :
    ∀ v ∈ [u], w.Sound v :=
  soundResponse_one (sound u rfl) [u] rfl

theorem soundResponse_respond {ε α : Type} {failure : ε → Failure} {values : α → List Value}
    {result : Except ε α} (h : ∀ a, result = .ok a → ∀ v ∈ values a, w.Sound v) :
    SoundResponse w (respond failure values result) := by
  rintro vs answered
  rcases result with e | a
  · cases answered
  · cases answered
    exact h a rfl

theorem safe_respond {ε α : Type} (failure : ε → Failure) (values : α → List Value)
    {x : Act Code (Except ε α)} {Q : World Code Memory → Except ε α → Prop} (safe : Safe x w P Q)
    (h : ∀ w' a, Q w' (.ok a) → ∀ v ∈ values a, w'.Sound v) :
    Safe (do return respond failure values (← x)) w P SoundResponse := by
  refine .bind safe fun result w' => safe_pure ?_
  rintro - ⟨-, -, -, given_⟩
  refine soundResponse_respond ?_
  rintro a rfl
  exact h w' a given_

/-! ## 2. Fields -/

theorem safe_readSlot (id : StorageId) (slot : Nat) :
    Safe (readSlot id slot) w P SoundResult := by
  refine .of_result (outcome_readSlot id slot w) fun inv _ v found => ?_
  split at found
  · cases found
  · exact (inv.stored id).sound v (mem_of_slotOf found)

theorem sound_fields (inv : w.Invariant) {o : Operand} {t : TypeId} {fields : List Value}
    (here : o.value w.host = .struct t fields) :
    t < w.types.size ∧ w.AcceptsAll (w.types.fieldKinds t) fields ∧ ∀ v ∈ fields, w.Sound v := by
  have sound := sound_value inv o
  rw [here] at sound
  cases sound with
  | struct declared accepted inside => exact ⟨declared, accepted, inside⟩

theorem safe_readField (o : Operand) (name : String) :
    Safe (readField o name) w P SoundResponse := by
  unfold readField
  refine .valueOf_bind ?_
  rcases here : o.value w.host with _ | _ | _ | _ | _ | _ | ⟨t, fields⟩ | a | _ | _
  case object =>
    refine Safe.bind (Q := fun w' found => ∀ v ∈ found, w'.Sound v) ?_ fun found w' => safe_pure ?_
    · unfold objectField?
      refine .getWorld_bind ?_
      rcases (w.typeOf? (.object a)).bind fun t => w.types.instanceField? t name with _ | field
      · exact safe_pure fun _ _ => nofun
      · refine Safe.bind (safe_readSlot (.entity a) field.1) fun result w' => safe_pure ?_
        rintro - ⟨-, -, -, sound⟩ v read
        rcases result with e | u
        · cases read
        · cases read
          exact sound v rfl
    · rintro - ⟨-, -, -, sound⟩ _ ⟨⟩ v read
      exact sound v (by simpa using read)
  case struct =>
    refine .getWorld_bind (safe_pure ?_)
    rintro inv - _ ⟨⟩ v read
    obtain ⟨-, -, inside⟩ := sound_fields inv here
    rw [Option.mem_toList] at read
    obtain ⟨field, -, stored⟩ := Option.bind_eq_some_iff.1 read
    exact inside v (List.mem_of_getElem? stored)
  all_goals exact safe_pure fun _ _ => nofun

theorem accepted_of_fieldFor {t : TypeId} {name : String} {v : Value} {slot : Nat}
    (h : fieldFor w t name v = .ok slot) :
    ∃ kind, (slot, kind) ∈ w.types.instanceSlots t ∧ w.accepts kind v = true := by
  unfold fieldFor at h
  split at h
  · cases h
  · next slot' kind found =>
    split at h
    · next accepted =>
      cases h
      exact ⟨kind, TypeTable.mem_instanceSlots found, accepted⟩
    · cases h

/-- Writing a field of an object by name is safe: the kind that is checked is that of the slot. -/
theorem safe_setObjectField (a : Address) (name : String) (v : Value) :
    Safe (setObjectField a name v) w (w.Sound v) fun _ _ => True := by
  unfold setObjectField
  refine .getWorld_bind ?_
  split
  · exact safe_pure fun _ _ => trivial
  next t type =>
  split
  · exact safe_pure fun _ _ => trivial
  next slot field =>
  obtain ⟨kind, mem, accepted⟩ := accepted_of_fieldFor field
  refine Safe.bind (Q := fun _ _ => True) ?_ fun result w' => ?_
  · rcases writeSlot_cases (.entity a) slot v w with ⟨e, refused⟩ | ⟨-, done⟩
    · exact .of_result refused fun _ _ => trivial
    · refine .of_outcome done (by rw [World.host_write]) fun inv sound => ?_
      refine ⟨World.invariant_write inv sound ?_, World.extends_write .., trivial⟩
      -- The kind that was checked was found by name; the slot has no other.
      rintro ks kinds kind' at_
      have here := World.typeOf?_object_eq_some.1 type
      rw [World.kindsOf, here] at kinds
      cases kinds
      have same := slot_of_mem (inv.typed.laidOut.slots t (inv.typed.declared a t here)) mem
      cases same.symm.trans at_
      exact accepted
  · rcases result with e | done
    · exact safe_pure fun _ _ => trivial
    · exact safe_pure fun _ _ => trivial

/-- The same for a struct, which is not in any storage. -/
theorem sound_setStructField (inv : w.Invariant) {t : TypeId} {fields fields' : List Value}
    {name : String} {v : Value} (declared : t < w.types.size)
    (accepted : w.AcceptsAll (w.types.fieldKinds t) fields) (inside : ∀ v ∈ fields, w.Sound v)
    (sound : w.Sound v) (h : setStructField w t fields name v = .ok fields') :
    w.Sound (.struct t fields') := by
  unfold setStructField at h
  split at h
  · cases h
  · next slot field =>
    split at h
    · cases h
      obtain ⟨kind, mem, accepts⟩ := accepted_of_fieldFor field
      have here := slot_of_mem (inv.typed.laidOut.slots t declared) mem
      refine .struct declared (World.acceptsAll_set accepted ?_) fun u member => ?_
      · intro kind' here'
        cases here.symm.trans here'
        exact accepts
      · rcases List.mem_or_eq_of_mem_set member with old | rfl
        · exact inside u old
        · exact sound
    · cases h

theorem safe_writeField (o : Operand) (name : String) (value : Operand) :
    Safe (writeField o name value) w P SoundResponse := by
  unfold writeField
  refine .valueOf_bind (.valueOf_bind ?_)
  rcases here : o.value w.host with _ | _ | _ | _ | _ | _ | ⟨t, fields⟩ | a | _ | _
  case object =>
    exact safe_respond .write (fun _ => [])
      ((safe_setObjectField a name (value.value w.host)).given fun inv _ => sound_value inv value)
      fun _ _ _ => nofun
  case struct =>
    refine .getWorld_bind (safe_pure fun inv _ => soundResponse_respond fun fields' done => ?_)
    obtain ⟨declared, accepted, inside⟩ := sound_fields inv here
    intro u member
    rw [List.mem_singleton.1 member]
    exact sound_setStructField inv declared accepted inside (sound_value inv value) done
  all_goals exact safe_pure fun _ _ => nofun

theorem safe_readSlotOf (o : Operand) (slot : Nat) :
    Safe (readSlotOf o slot) w P SoundResponse := by
  unfold readSlotOf
  refine .valueOf_bind ?_
  rcases here : o.value w.host with _ | _ | _ | _ | _ | _ | ⟨t, fields⟩ | a | _ | _
  case object =>
    exact safe_respond .storage ([·]) (safe_readSlot (.entity a) slot) fun _ _ => sound_of_result
  case struct =>
    refine safe_pure ?_
    rintro inv - _ ⟨⟩ v read
    obtain ⟨-, -, inside⟩ := sound_fields inv here
    rw [Option.mem_toList] at read
    exact inside v (List.mem_of_getElem? read)
  all_goals exact safe_pure fun _ _ => nofun

/-! ## 3. Collections -/

theorem isCollection_of_sound {v : Value} (sound : w.Sound v) {a : Address}
    (here : v.collection? = some a) : w.IsCollection a := by
  cases sound with
  | array shape =>
    cases here
    exact .inl shape
  | list shape =>
    cases here
    exact .inr shape
  | _ => cases here

theorem kindsOf_collection {a : Address} (h : w.IsCollection a) :
    w.kindsOf (.entity a) = none := by
  rw [World.kindsOf]
  rcases h with shape | shape <;> rw [shape]

/-- The elements of a collection may be any sound values. -/
theorem invariant_elements (inv : w.Invariant) {a : Address} (h : w.IsCollection a)
    {f : Array Value → Array Value} (sound : ∀ v ∈ f (w.cells (.entity a)), w.Sound v) :
    (w.modifyCells (.entity a) f).Invariant := by
  refine World.invariant_modifyCells inv ⟨sound, fun ks kinds => ?_⟩
  rw [kindsOf_collection h] at kinds
  cases kinds

theorem safe_onCollection (o : Operand) {body : Address → Act Code Response}
    (h : ∀ a, Safe (body a) w (w.IsCollection a) SoundResponse) :
    Safe (onCollection o body) w P SoundResponse := by
  refine obeys_onCollection (fun _ _ => nofun) fun a here => ?_
  exact (h a).given fun inv _ => isCollection_of_sound (sound_value inv o) here

theorem safe_onList (o : Operand) {body : Address → Act Code Response}
    (h : ∀ a, Safe (body a) w (w.IsCollection a) SoundResponse) :
    Safe (onList o body) w P SoundResponse := by
  refine obeys_onList (fun _ _ => nofun) fun a here => (h a).given fun inv _ => ?_
  have sound := sound_value inv o
  rw [here] at sound
  exact isCollection_of_sound sound rfl

/-- Resizing a list leaves sound elements, and gives some of those that were there. -/
theorem safe_resize {α : Type} (a : Address) {f : Array Value → Array Value}
    {result : Array Value → α} {values : α → List Value}
    (given_ : ∀ cells, ∀ v ∈ values (result cells), v ∈ cells)
    (sound : w.Invariant → ∀ v ∈ f (w.cells (.entity a)), w.Sound v) :
    Safe (do return respond .misuse values (← resize a f result)) w (w.IsCollection a)
      SoundResponse := by
  refine safe_respond .misuse values
    (Q := fun w' r => ∀ b, r = .ok b → ∀ v ∈ values b, w'.Sound v) ?_ fun w' b h => h b rfl
  by_cases free : w.borrow (.entity a) = .free
  · refine .of_outcome ((outcome_resize a f result w).trans (if_pos free)) ?_ fun inv h => ?_
    · rw [World.host_modifyCells]
    · have grown := World.extends_modifyCells w (.entity a) f
      refine ⟨invariant_elements inv h (sound inv), grown, ?_⟩
      rintro _ ⟨⟩ v member
      exact World.sound_of_extends inv.typed grown
        ((inv.stored (.entity a)).sound v (given_ _ v member))
  · exact .of_result ((outcome_resize a f result w).trans (if_neg free)) fun _ _ => nofun

theorem safe_push (a : Address) (value : Operand) :
    Safe (do return respond .misuse (fun _ => []) (← push a (← valueOf value))) w
      (w.IsCollection a) SoundResponse := by
  refine .valueOf_bind (safe_resize a (fun _ => nofun) fun inv v member => ?_)
  rcases Array.mem_push.1 member with old | rfl
  · exact (inv.stored (.entity a)).sound v old
  · exact sound_value inv value

theorem mem_of_pop {cells : Array Value} {v : Value} (member : v ∈ cells.pop) : v ∈ cells := by
  rw [← Array.mem_toList_iff, Array.toList_pop] at member
  exact Array.mem_toList_iff.1 (List.dropLast_subset _ member)

theorem mem_of_take {cells : Array Value} {len : Nat} {v : Value} (member : v ∈ cells.take len) :
    v ∈ cells := by
  rw [← Array.mem_toList_iff] at member
  exact Array.mem_toList_iff.1 (List.mem_of_mem_take (by simpa using member))

theorem safe_pop (a : Address) :
    Safe (do return respond .misuse Option.toList (← pop a)) w (w.IsCollection a)
      SoundResponse := by
  refine safe_resize a (fun cells v member => ?_) fun inv v member => ?_
  · exact Array.mem_of_back? (Option.mem_toList.1 member)
  · exact (inv.stored (.entity a)).sound v (mem_of_pop member)

theorem safe_truncate (a : Address) (len : Nat) :
    Safe (do return respond .misuse (fun _ => []) (← truncate a len)) w (w.IsCollection a)
      SoundResponse :=
  safe_resize a (fun _ => nofun) fun inv v member =>
    (inv.stored (.entity a)).sound v (mem_of_take member)

theorem safe_items (a : Address) :
    Safe (do return respond .misuse Array.toList (← elements a)) w P SoundResponse := by
  refine safe_respond .misuse Array.toList
    (Q := fun w' r => ∀ cells, r = .ok cells → ∀ v ∈ cells, w'.Sound v) ?_
    fun w' cells sound v member => sound cells rfl v (Array.mem_toList_iff.1 member)
  refine .of_result (outcome_elements a w) fun inv _ cells found => ?_
  split at found
  · cases found
  · cases found
    exact (inv.stored (.entity a)).sound

theorem safe_element (a : Address) (index : UInt64) :
    Safe (do return respond .element ([·]) (← elementAt a index)) w P SoundResponse := by
  refine safe_respond .element ([·]) (Q := SoundResult) ?_ fun _ _ => sound_of_result
  refine .of_result (outcome_elementAt a index w) fun inv _ v found => ?_
  split at found
  · cases found
  · exact (inv.stored (.entity a)).sound v (mem_of_elementOf found)

theorem safe_setElement (a : Address) (index : UInt64) (value : Operand) :
    Safe (do return respond .element (fun _ => []) (← setElementAt a index (← valueOf value))) w
      (w.IsCollection a) SoundResponse := by
  refine .valueOf_bind (safe_respond .element (fun _ => []) (Q := fun _ _ => True) ?_
    fun _ _ _ => nofun)
  rcases setElementAt_cases a index (value.value w.host) w with ⟨e, refused⟩ | ⟨-, done⟩
  · exact .of_result refused fun _ _ => trivial
  · refine .of_outcome done (by rw [World.host_write]) fun inv h => ?_
    refine ⟨World.invariant_write inv (sound_value inv value) ?_, World.extends_write .., trivial⟩
    intro ks kinds
    rw [kindsOf_collection h] at kinds
    cases kinds

theorem outcome_mapM_valueOf (items : List Operand) (w : World Code Memory) :
    (items.mapM valueOf : Act Code _).outcome w = (items.map (·.value w.host), w) := by
  induction items with
  | nil => rfl
  | cons o items ih =>
    rw [List.mapM_cons, outcome_bind]
    show ((items.mapM valueOf >>= _ : Act Code _)).outcome w = _
    rw [outcome_bind, ih]
    rfl

/-- Creates a collection of values that the client can name. -/
def allocateItems (items : List Operand) (shape : Shape) (handle : Address → Value) :
    Act Code Response := do
  let vs ← items.mapM valueOf
  return .ok [← transform fun w =>
    (handle (w.allocate shape vs.toArray).1, (w.allocate shape vs.toArray).2)]

theorem outcome_allocateItems (items : List Operand) (shape : Shape) (handle : Address → Value)
    (w : World Code Memory) :
    (allocateItems items shape handle : Act Code _).outcome w =
      (.ok [handle w.entities.size],
        (w.allocate shape (items.map (·.value w.host)).toArray).2) := by
  rw [allocateItems, outcome_bind, outcome_mapM_valueOf]
  rfl

theorem safe_allocateItems (items : List Operand) {shape : Shape} {handle : Address → Value}
    (collection : ∀ t, shape ≠ .object t)
    (sound : ∀ (w : World Code Memory) a, w.shape? a = some shape → w.Sound (handle a)) :
    Safe (allocateItems items shape handle) w P SoundResponse := by
  refine .of_outcome (outcome_allocateItems items shape handle w) rfl fun inv _ => ?_
  have grown := World.extends_allocate w shape (items.map (·.value w.host)).toArray
  refine ⟨World.invariant_allocate inv (fun t object => absurd object (collection t)) ⟨?_, ?_⟩,
    grown, ?_⟩
  · intro v member
    obtain ⟨o, -, rfl⟩ := List.mem_map.1 (List.mem_toArray.1 member)
    exact sound_value inv o
  · intro ks kinds
    cases shape with
    | object t => exact absurd rfl (collection t)
    | array => cases kinds
    | list => cases kinds
  · refine soundResponse_one (sound _ _ ?_)
    rw [World.shape?_allocate]
    exact if_pos rfl

/-! ## 4. Guards -/

theorem safe_borrow (o : Operand) (forWriting : Bool) :
    Safe (borrow o forWriting) w P SoundResponse := by
  unfold borrow
  refine .valueOf_bind (.getWorld_bind ?_)
  split
  · exact safe_pure fun _ _ => nofun
  next a here =>
  dsimp only
  split
  · exact safe_pure fun _ _ => nofun
  next granted _ =>
  refine Safe.of_outcome rfl rfl fun inv _ => ?_
  have borrowed := World.invariant_setBorrow inv (.entity a) granted
  have grown := World.extends_setBorrow w (.entity a) granted
  refine ⟨World.invariant_host borrowed borrowed.known ?_ inv.sound, ?_, soundResponse_nil _⟩
  · intro guard member writes
    rcases List.mem_append.1 member with old | new
    · exact borrowed.guards guard old writes
    · cases List.mem_singleton.1 new
      have writes' : forWriting = true := writes
      rw [writes'] at here
      exact (isCollection_of_sound (sound_value inv o) here).mono grown
  · exact grown.trans (.of_eq rfl fun _ => rfl)

theorem safe_onGuard (i : Nat) {body : Guard → Array Value → Act Code Response}
    (h : ∀ guard ∈ w.host.guards,
      Safe (body guard (w.cells (.entity guard.address))) w P SoundResponse) :
    Safe (onGuard i body) w P SoundResponse :=
  obeys_onGuard (fun _ => nofun) fun guard here => h guard (List.mem_of_getElem? here)

theorem mem_of_replace {cursor : Cursor} {cells : Array Value} {u v : Value}
    (member : v ∈ (cursor.replace cells u).2) : v ∈ cells ∨ v = u := by
  unfold Cursor.replace at member
  split at member
  · exact .inl member
  · split at member
    · rw [Array.set!_eq_setIfInBounds] at member
      exact Array.mem_or_eq_of_mem_setIfInBounds member
    · exact .inl member

theorem safe_release (i : Nat) :
    Safe (runOperation beh (.release i)) w P SoundResponse := by
  refine safe_onGuard i fun guard _ => .of_outcome rfl rfl fun inv _ => ?_
  have released := World.invariant_setBorrow inv (.entity guard.address)
    (w.borrow (.entity guard.address)).release
  refine ⟨World.invariant_host released released.known ?_ inv.sound, ?_, soundResponse_nil _⟩
  · exact fun guard member => released.guards guard (List.mem_of_mem_eraseIdx member)
  · exact (World.extends_setBorrow ..).trans (.of_eq rfl fun _ => rfl)

theorem safe_advance (i : Nat) :
    Safe (runOperation beh (.advance i)) w P SoundResponse := by
  refine safe_onGuard i fun guard opened => .of_outcome rfl rfl fun inv _ => ?_
  refine ⟨World.invariant_host inv inv.known ?_ inv.sound, .of_eq rfl fun _ => rfl,
    soundResponse_one (.bool _)⟩
  intro guard' member writes
  rcases List.mem_or_eq_of_mem_set member with old | rfl
  · exact inv.guards guard' old writes
  · exact inv.guards guard opened writes

theorem safe_replace (i : Nat) (value : Operand) :
    Safe (runOperation beh (.replace i value)) w P SoundResponse := by
  refine safe_onGuard i fun guard opened => ?_
  split
  · next writes =>
    refine .valueOf_bind ?_
    rcases replaced : guard.cursor.replace (w.cells (.entity guard.address))
      (value.value w.host) with ⟨done, cells⟩
    have ran : (do
        modify (·.modifyCells (.entity guard.address) fun _ => cells)
        return .ok [.bool done] : Act Code Response).outcome w =
        (.ok [.bool done], w.modifyCells (.entity guard.address) fun _ => cells) := rfl
    refine Safe.of_outcome ran (by rw [World.host_modifyCells]) fun inv _ =>
      ⟨?_, World.extends_modifyCells .., soundResponse_one (.bool _)⟩
    refine invariant_elements inv (inv.guards guard opened writes) fun v member => ?_
    have member' : v ∈ (guard.cursor.replace (w.cells (.entity guard.address))
        (value.value w.host)).2 := by
      rw [replaced]
      exact member
    rcases mem_of_replace member' with old | rfl
    · exact (inv.stored _).sound v old
    · exact sound_value inv value
  · exact safe_pure fun _ _ => nofun

theorem safe_contents (i : Nat) : Safe (runOperation beh (.contents i)) w P SoundResponse := by
  refine safe_onGuard i fun guard _ => safe_pure ?_
  rintro inv - _ ⟨⟩ v member
  exact (inv.stored _).sound v (Array.mem_toList_iff.1 member)

theorem safe_current (i : Nat) : Safe (runOperation beh (.current i)) w P SoundResponse := by
  refine safe_onGuard i fun guard _ => safe_pure ?_
  rintro inv - _ ⟨⟩ v member
  obtain ⟨position, -, here⟩ := Option.bind_eq_some_iff.1 (Option.mem_toList.1 member)
  exact (inv.stored _).sound v (Array.mem_of_getElem? here)

/-! ## 5. Declarations -/

/-- The clauses that a client may write keep to the conditions under which a type is laid out. -/
theorem meets_of_accepted {clauses : List (Clause Code)}
    (earlier : (clauses.all fun clause => (typesOf clause).all (· < w.types.size)) = true)
    (accepted : ClausesAccepted beh w clauses)
    (sound : ∀ name kind v, .staticField name kind v ∈ clauses → w.Sound v) :
    ∀ clause ∈ clauses, clause.Meets (· < w.types.size) w.types.HasDefault
      fun kind v => w.accepts kind v = true ∧ w.Sound v := by
  intro clause member
  cases clause with
  | «extends» base =>
    have named := List.all_eq_true.1 earlier _ member
    show base < w.types.size
    simpa [typesOf] using named
  | field name kind => exact hasDefault_of_accepted (accepted.1 name kind member)
  | staticField name kind v => exact ⟨accepted.2 name kind v member, sound name kind v member⟩
  | fieldWith | property | method | nonPublic => trivial

theorem safe_declareType (kind : TypeKind) (name : String) {clauses : List (Clause Code)}
    (sound : w.Invariant → ∀ name kind v, .staticField name kind v ∈ clauses → w.Sound v) :
    Safe (declareType beh kind name clauses) w P SoundResponse := by
  unfold declareType
  refine .getWorld_bind ?_
  split
  case isFalse => exact safe_pure fun _ _ => nofun
  next earlier =>
  rcases declared : w.declare (.ofClauses kind name clauses) with e | ⟨t, w'⟩
  · exact safe_pure fun _ _ => nofun
  obtain ⟨-, -, -, host⟩ := World.declare_eq declared
  -- The declaration's own entry in the ledger says that its first values are accepted.
  refine Safe.of_ledger rfl (fun entered => host ▸ entered.1) ?_
  rintro ⟨-, accepted⟩ inv -
  have counted := TypeBuilder.counted_ofClauses kind name
    (meets_of_accepted earlier accepted (sound inv))
  have inv' := World.invariant_declare inv declared counted
  refine ⟨World.invariant_host inv' inv'.known inv'.guards inv'.sound, ?_, soundResponse_nil _⟩
  exact (World.extends_declare declared).trans (.of_eq rfl fun _ => rfl)

theorem value_of_withValue {clause : Clause Code} {v u : Value} {name : String} {kind : ValueKind}
    (h : withValue v clause = .staticField name kind u) : u = v := by
  cases clause with
  | staticField =>
    cases h
    rfl
  | _ => cases h

theorem safe_declare (kind : TypeKind) (name : String) (clauses : List (Clause Code × Operand)) :
    Safe (runOperation beh (.declare kind name clauses)) w P SoundResponse := by
  refine .gets_bind (safe_declareType kind name ?_)
  intro inv name kind v member
  obtain ⟨⟨clause, o⟩, -, made⟩ := List.mem_map.1 member
  rw [value_of_withValue made]
  exact sound_value inv o

/-! ## 6. All operations -/

theorem safe_fromRoot {α : Type} (values : α → List Value) {root : Value}
    {call : Act Code (Except AccessError α)} {Q : World Code Memory → Except AccessError α → Prop}
    (safe : Safe call w P Q) (h : ∀ w' a, Q w' (.ok a) → ∀ v ∈ values a, w'.Sound v) :
    Safe (do return respondAccess values (← PathAccess.fromRoot root call)) w P SoundResponse :=
  obeys_fromRoot (fun _ => nofun) (safe_respond .access values safe h)

section

variable (safe : SafeBehaviour beh)
include safe

theorem safe_create (t : TypeId) : Safe (runOperation beh (.create t)) w P SoundResponse := by
  refine .getWorld_bind ?_
  split
  · next declared =>
    refine Safe.bind ((safe_newInstance safe t w).given fun _ _ => declared)
      fun v w' => safe_pure ?_
    rintro - ⟨-, -, -, sound⟩
    exact soundResponse_one sound
  · exact safe_pure fun _ _ => nofun

theorem safe_get (options : AccessOptions) (root : Operand) (path : String) :
    Safe (runOperation beh (.get options root path)) w P SoundResponse := by
  exact .valueOf_bind (safe_fromRoot ([·])
    ((safe_getValue safe options (root.value w.host) path w).given fun inv _ =>
      sound_value inv root) fun _ _ => sound_of_result)

theorem safe_setPath (options : AccessOptions) (root : Operand) (path : String)
    (value : Operand) : Safe (runOperation beh (.set options root path value)) w P
      SoundResponse := by
  refine .valueOf_bind (.valueOf_bind (safe_fromRoot (fun _ => [])
    ((safe_set safe options (root.value w.host) path (value.value w.host) w).given fun inv _ =>
      ⟨sound_value inv root, sound_value inv value⟩) fun _ _ _ => nofun))

theorem safe_writeDeferred (container : Operand) (token : Token) (value : Operand) :
    Safe (runOperation beh (.write container token value)) w P SoundResponse := by
  refine .valueOf_bind (.valueOf_bind (safe_respond .fault (fun _ => [])
    ((safe_apply safe (container.value w.host) token (value.value w.host) w).given fun inv _ =>
      ⟨sound_value inv container, sound_value inv value⟩) fun _ _ _ => nofun))

/-- Every operation is safe. -/
theorem safe_runOperation (op : Operation Code) (w : World Code Memory) :
    Safe (runOperation beh op) w P SoundResponse := by
  cases op with
  | declare kind name clauses => exact safe_declare kind name clauses
  | create t => exact safe_create safe t
  | field on name => exact safe_readField on name
  | setField on name value => exact safe_writeField on name value
  | slot on i => exact safe_readSlotOf on i
  | static t i =>
    exact safe_respond .storage ([·]) (safe_readSlot (.statics t) i) fun _ _ => sound_of_result
  | get options root path => exact safe_get safe options root path
  | set options root path value => exact safe_setPath safe options root path value
  | write container token value => exact safe_writeDeferred safe container token value
  | array items =>
    show Safe (allocateItems items .array .array) w P SoundResponse
    exact safe_allocateItems items (fun _ => nofun) fun _ _ here => .array here
  | list items =>
    show Safe (allocateItems items .list .list) w P SoundResponse
    exact safe_allocateItems items (fun _ => nofun) fun _ _ here => .list here
  | push on value => exact safe_onList on fun a => safe_push a value
  | pop on => exact safe_onList on safe_pop
  | truncate on len => exact safe_onList on fun a => safe_truncate a len
  | items on => exact safe_onCollection on fun a => safe_items a
  | element on index => exact safe_onCollection on fun a => safe_element a index
  | setElement on index value => exact safe_onCollection on fun a => safe_setElement a index value
  | borrow on forWriting => exact safe_borrow on forWriting
  | release i => exact safe_release i
  | contents i => exact safe_contents i
  | advance i => exact safe_advance i
  | current i => exact safe_current i
  | replace i value => exact safe_replace i value

end

end ObjectGraph.Client
