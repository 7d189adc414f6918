import ObjectGraph.Proofs.Client.Operations
import ObjectGraph.Proofs.Client.Sizes

/-!
# Commands stay in bounds

Every command keeps a world sized and gives whole values. A command that looks for a slot by the
name of a field finds it; one that is given the number of a slot may not, but then changes nothing.

1. `Keeps`, `Within`: what is shown of every command;
2. `keeps_writeSlot`, `keeps_setObjectField`: slots and fields;
3. `keeps_resize`, `keeps_allocateItems`, `keeps_replace`: collections and guards;
4. `keeps_declareType`, `keeps_newInstance`: types and instances;
5. `keeps_runCommand`: all commands.
-/

namespace ObjectGraph.Client

open ObjectGraph.Action

variable {Code α : Type} {claimed : Address → Option Nat} {beh : Behaviour Code Memory}
  {w : World Code Memory} {P N : Prop}

/-! ## 1. Answers -/

/-- Run in `w`, given `P`, the action keeps the world sized and has a result with `Q`. -/
abbrev Keeps (claimed : Address → Option Nat) (x : Act Code α) (w : World Code Memory) (P : Prop)
    (Q : World Code Memory → α → Prop) : Prop :=
  Obeys (sizes Code claimed).toDiscipline x w P Q

/-- What a client can name is whole. -/
theorem whole_value (sized : w.Sized claimed) (o : Operand) : w.Whole (o.value w.host) := by
  cases o with
  | native datum => exact World.whole_ofNative w datum
  | known i =>
    show w.Whole (w.host.known[i]?.getD .null)
    rcases here : w.host.known[i]? with _ | v
    · exact .other nofun nofun
    · exact sized.known v (List.mem_of_getElem? here)

theorem keeps_modify {f : World Code Memory → World Code Memory}
    (h : w.Sized claimed → P → (f w).Sized claimed ∧ w.Grows (f w)) :
    Keeps claimed (Action.modify f) w P fun _ _ => True := by
  refine .of_outcome rfl fun sized given_ => ?_
  obtain ⟨after, grown⟩ := h sized given_
  exact ⟨after, grown, trivial⟩

theorem keeps_modifyMemory {f : Memory → Memory}
    (known : w.Sized claimed → P → ∀ v ∈ (f w.host).known, w.Whole v)
    (ledger : w.Sized claimed → P → w.Lengths claimed → (f w.host).sound) :
    Keeps claimed (modifyMemory f) w P fun _ _ => True :=
  keeps_modify fun sized given_ =>
    World.sized_host sized (known sized given_) (ledger sized given_)

/-- The memory holds the same values and the same ledger. -/
theorem keeps_modifyMemory_of_eq {f : Memory → Memory} (known : ∀ m, (f m).known = m.known)
    (ledger : ∀ m, (f m).sound = m.sound) :
    Keeps claimed (modifyMemory f) w P fun _ _ => True :=
  keeps_modifyMemory (fun sized _ => by rw [known]; exact sized.known)
    (fun sized _ => by rw [ledger]; exact sized.ledger)

/-- If the action succeeds, it gives a whole value. -/
def WholeResult {ε : Type} (w : World Code Memory) (result : Except ε Value) : Prop :=
  ∀ v, result = .ok v → w.Whole v

/-- The answer consists of whole values, or is a failure. The failure can only be that a slot does
not exist if slots are asked for `byNumber`. -/
structure Within (byNumber : Prop) (w : World Code Memory) (response : Response) : Prop where
  whole : ∀ vs, response = .ok vs → ∀ v ∈ vs, w.Whole v
  found : ¬ byNumber → ∀ failure, response = .error failure → ¬ failure.IsOutOfBounds

theorem within_ok {vs : List Value} (whole : ∀ v ∈ vs, w.Whole v) : Within N w (.ok vs) := by
  constructor
  · rintro _ ⟨⟩
    exact whole
  · intro _ failure failed
    cases failed

theorem within_one {v : Value} (whole : w.Whole v) : Within N w (.ok [v]) :=
  within_ok (List.forall_mem_singleton.2 whole)

theorem within_error {failure : Failure} (inBounds : ¬ failure.IsOutOfBounds) :
    Within N w (.error failure) := by
  refine ⟨nofun, ?_⟩
  rintro - _ ⟨⟩
  exact inBounds

theorem whole_of_result {ε : Type} {u : Value} (whole : WholeResult w (.ok u : Except ε Value)) :
    ∀ v ∈ [u], w.Whole v := List.forall_mem_singleton.2 (whole u rfl)

theorem within_respond {ε : Type} {failure : ε → Failure} {values : α → List Value}
    {result : Except ε α} (ok : ∀ a, result = .ok a → ∀ v ∈ values a, w.Whole v)
    (error : ¬ N → ∀ e, result = .error e → ¬ (failure e).IsOutOfBounds) :
    Within N w (respond failure values result) := by
  rcases result with e | a
  · refine ⟨nofun, ?_⟩
    rintro named _ ⟨⟩
    exact error named e rfl
  · exact within_ok (ok a rfl)

theorem keeps_respond {ε : Type} (failure : ε → Failure) (values : α → List Value)
    {x : Act Code (Except ε α)} {Q : World Code Memory → Except ε α → Prop}
    (keeps : Keeps claimed x w P Q) (ok : ∀ w' a, Q w' (.ok a) → ∀ v ∈ values a, w'.Whole v)
    (error : ¬ N → ∀ w' e, Q w' (.error e) → ¬ (failure e).IsOutOfBounds) :
    Keeps claimed (do return respond failure values (← x)) w P (Within N) := by
  refine .bind keeps fun result w' => obeys_pure ?_
  rintro - ⟨-, -, -, given_⟩
  refine within_respond ?_ ?_
  · rintro a rfl
    exact ok w' a given_
  · rintro named e rfl
    exact error named w' e given_

/-! ## 2. Fields and slots -/

theorem inBounds_of_busyWrite : ¬ (Failure.write (.storage .busy)).IsOutOfBounds := by
  rintro ⟨_, _, ⟨⟩⟩

theorem keeps_readSlot (id : StorageId) (slot : Nat) :
    Keeps claimed (readSlot id slot) w P WholeResult := by
  refine .of_result (outcome_readSlot id slot w) fun sized _ v found => ?_
  split at found
  · cases found
  · exact sized.stored id v (mem_of_slotOf found)

/-- A slot may be written by its number. If it exists this fails only while it is in use. -/
theorem keeps_writeSlot (id : StorageId) (slot : Nat) (v : Value) :
    Keeps claimed (writeSlot id slot v) w (w.Whole v)
      fun _ result => slot < (w.cells id).size → ∀ e, result = .error e → e = .busy := by
  rcases writeSlot_cases id slot v w with ⟨e, refused⟩ | ⟨-, done⟩
  · refine .of_result refused ?_
    rintro - - inside _ ⟨⟩
    exact busy_of_writeSlot inside (congrArg Prod.fst refused)
  · refine .of_outcome done fun sized whole => ?_
    obtain ⟨after, grown⟩ := World.sized_write sized ⟨id, slot⟩ whole
    exact ⟨after, grown, fun _ => nofun⟩

theorem whole_fields (sized : w.Sized claimed) {o : Operand} {t : TypeId} {fields : List Value}
    (here : o.value w.host = .struct t fields) : ∀ v ∈ fields, w.Whole v := by
  have whole := whole_value sized o
  rw [here] at whole
  exact (World.whole_struct_iff.1 whole).2.2

theorem keeps_readField (o : Operand) (name : String) :
    Keeps claimed (readField o name) w P (Within N) := by
  unfold readField
  refine Obeys.valueOf_bind ?_
  rcases here : o.value w.host with _ | _ | _ | _ | _ | _ | ⟨t, fields⟩ | a | _ | _
  case object =>
    refine .bind (Q := fun w' found => ∀ v ∈ found, w'.Whole v) ?_ fun found w' => obeys_pure ?_
    · unfold objectField?
      refine .getWorld_bind ?_
      rcases (w.typeOf? (.object a)).bind fun t => w.types.instanceField? t name with _ | field
      · exact obeys_pure fun _ _ => nofun
      · refine .bind (keeps_readSlot (.entity a) field.1) fun result w' => obeys_pure ?_
        rintro - ⟨-, -, -, whole⟩ v read
        rcases result with e | u
        · cases read
        · cases read
          exact whole v rfl
    · rintro - ⟨-, -, -, whole⟩
      exact within_ok fun v read => whole v (Option.mem_toList.1 read)
  case struct =>
    refine .getWorld_bind (obeys_pure fun sized _ => within_ok fun v read => ?_)
    obtain ⟨field, -, stored⟩ := Option.bind_eq_some_iff.1 (Option.mem_toList.1 read)
    exact whole_fields sized here v (List.mem_of_getElem? stored)
  all_goals exact obeys_pure fun _ _ => within_error id

theorem inBounds_of_fieldFor {t : TypeId} {name : String} {v : Value} {e : WriteError}
    (h : fieldFor w t name v = .error e) : ¬ (Failure.write e).IsOutOfBounds := by
  unfold fieldFor at h
  split at h
  · cases h
    exact id
  · split at h
    · cases h
    · cases h
      exact id

/-- Writing a field of an object by name finds the slot. -/
theorem keeps_setObjectField (a : Address) (name : String) (v : Value) :
    Keeps claimed (setObjectField a name v) w (w.Whole v)
      fun _ result => ∀ e, result = .error e → ¬ (Failure.write e).IsOutOfBounds := by
  unfold setObjectField
  refine .getWorld_bind ?_
  split
  · refine obeys_pure ?_
    rintro - - _ ⟨⟩
    exact id
  next t type =>
  split
  · next e failed =>
    refine obeys_pure ?_
    rintro - - _ ⟨⟩
    exact inBounds_of_fieldFor failed
  next slot field =>
  have inside (sized : w.Sized claimed) : slot < (w.cells (.entity a)).size := by
    obtain ⟨kind, listed, -⟩ := accepted_of_fieldFor field
    exact World.slot_lt_of_mem sized (World.whole_object w a) type listed
  refine .bind (keeps_writeSlot (.entity a) slot v) fun result w' => ?_
  rcases result with e | done
  · refine obeys_pure ?_
    rintro - ⟨sized, -, -, busy⟩ _ ⟨⟩
    rw [busy (inside sized) e rfl]
    exact inBounds_of_busyWrite
  · exact obeys_pure fun _ _ => nofun

/-- And so does writing a field of a struct, which is not in any storage. -/
theorem setStructField_cases (sized : w.Sized claimed) {t : TypeId} {fields : List Value}
    (name : String) {v : Value} (whole : w.Whole (.struct t fields)) (whole_v : w.Whole v) :
    (∃ e, setStructField w t fields name v = .error e ∧ ¬ (Failure.write e).IsOutOfBounds) ∨
      ∃ fields', setStructField w t fields name v = .ok fields' ∧ w.Whole (.struct t fields') := by
  unfold setStructField
  rcases field : fieldFor w t name v with e | slot
  · exact .inl ⟨e, rfl, inBounds_of_fieldFor field⟩
  obtain ⟨kind, listed, -⟩ := accepted_of_fieldFor field
  have inside : slot < (w.slots (.struct t fields)).size :=
    World.slot_lt_of_mem sized whole rfl listed
  rw [World.slots, List.size_toArray] at inside
  refine .inr ⟨fields.set slot v, if_pos inside, ?_⟩
  obtain ⟨declared, count, each⟩ := World.whole_struct_iff.1 whole
  refine .struct declared ((List.length_set ..).trans count) fun u member => ?_
  rcases List.mem_or_eq_of_mem_set member with old | rfl
  · exact each u old
  · exact whole_v

theorem keeps_writeField (o : Operand) (name : String) (value : Operand) :
    Keeps claimed (writeField o name value) w P (Within N) := by
  unfold writeField
  refine Obeys.valueOf_bind (Obeys.valueOf_bind ?_)
  rcases here : o.value w.host with _ | _ | _ | _ | _ | _ | ⟨t, fields⟩ | a | _ | _
  case object =>
    refine keeps_respond .write (fun _ => []) ((keeps_setObjectField a name _).given
      fun sized _ => whole_value sized value) (fun _ _ _ => nofun) ?_
    exact fun _ w' e inBounds => inBounds e rfl
  case struct =>
    refine .getWorld_bind (obeys_pure fun sized _ => ?_)
    have whole := whole_value sized o
    rw [here] at whole
    rcases setStructField_cases sized name whole (whole_value sized value) with
      ⟨e, failed, inBounds⟩ | ⟨fields', done, whole'⟩
    · rw [failed]
      exact within_error inBounds
    · rw [done]
      exact within_one whole'
  all_goals exact obeys_pure fun _ _ => within_error id

theorem keeps_readSlotOf (o : Operand) (slot : Nat) :
    Keeps claimed (readSlotOf o slot) w P (Within True) := by
  unfold readSlotOf
  refine Obeys.valueOf_bind ?_
  rcases here : o.value w.host with _ | _ | _ | _ | _ | _ | ⟨t, fields⟩ | a | _ | _
  case object =>
    exact keeps_respond .storage ([·]) (keeps_readSlot (.entity a) slot)
      (fun _ _ => whole_of_result) fun named => absurd trivial named
  case struct =>
    refine obeys_pure fun sized _ => within_ok fun v read => ?_
    exact whole_fields sized here v (List.mem_of_getElem? (Option.mem_toList.1 read))
  all_goals exact obeys_pure fun _ _ => within_error id

/-! ## 3. Collections and guards -/

theorem keeps_onCollection (o : Operand) {body : Address → Act Code Response}
    (h : ∀ a, Keeps claimed (body a) w P (Within N)) :
    Keeps claimed (onCollection o body) w P (Within N) :=
  obeys_onCollection (fun _ => within_error id) fun a _ => h a

/-- The handle of a list leads to a list. -/
theorem keeps_onList (o : Operand) {body : Address → Act Code Response}
    (h : ∀ a, Keeps claimed (body a) w (w.IsList (.entity a)) (Within N)) :
    Keeps claimed (onList o body) w P (Within N) := by
  refine obeys_onList (fun _ => within_error id) fun a here => (h a).given fun sized _ => ?_
  have whole := whole_value sized o
  rw [here] at whole
  exact ⟨a, rfl, World.whole_list_iff.1 whole⟩

/-- Only lists are resized. -/
theorem keeps_resize (a : Address) {f : Array Value → Array Value} {result : Array Value → α}
    {values : α → List Value} (given_ : ∀ cells, ∀ v ∈ values (result cells), v ∈ cells)
    (whole : w.Sized claimed → ∀ v ∈ f (w.cells (.entity a)), w.Whole v) :
    Keeps claimed (do return respond .misuse values (← resize a f result)) w
      (w.IsList (.entity a)) (Within N) := by
  refine keeps_respond .misuse values
    (Q := fun w' r => ∀ b, r = .ok b → ∀ v ∈ values b, w'.Whole v) ?_
    (fun w' b h => h b rfl) fun _ _ _ _ => id
  by_cases free : w.borrow (.entity a) = .free
  · refine .of_outcome ((outcome_resize a f result w).trans (if_pos free)) fun sized list => ?_
    obtain ⟨after, grown⟩ := World.sized_modifyCells sized (whole sized)
      fun notList => absurd list notList
    refine ⟨after, grown, ?_⟩
    rintro _ ⟨⟩ v member
    exact (sized.stored (.entity a) v (given_ _ v member)).mono grown.toExtends
  · exact .of_result ((outcome_resize a f result w).trans (if_neg free)) fun _ _ => nofun

theorem keeps_push (a : Address) (value : Operand) :
    Keeps claimed (do return respond .misuse (fun _ => []) (← push a (← valueOf value))) w
      (w.IsList (.entity a)) (Within N) := by
  refine Obeys.valueOf_bind (keeps_resize a (fun _ => nofun) fun sized v member => ?_)
  rcases Array.mem_push.1 member with old | rfl
  · exact sized.stored (.entity a) v old
  · exact whole_value sized value

theorem keeps_pop (a : Address) :
    Keeps claimed (do return respond .misuse Option.toList (← pop a)) w (w.IsList (.entity a))
      (Within N) := by
  refine keeps_resize a (fun cells v member => ?_) fun sized v member => ?_
  · exact Array.mem_of_back? (Option.mem_toList.1 member)
  · exact sized.stored (.entity a) v (mem_of_pop member)

theorem keeps_truncate (a : Address) (len : Nat) :
    Keeps claimed (do return respond .misuse (fun _ => []) (← truncate a len)) w
      (w.IsList (.entity a)) (Within N) :=
  keeps_resize a (fun _ => nofun) fun sized v member =>
    sized.stored (.entity a) v (mem_of_take member)

theorem keeps_items (a : Address) :
    Keeps claimed (do return respond .misuse Array.toList (← elements a)) w P (Within N) := by
  refine keeps_respond .misuse Array.toList
    (Q := fun w' r => ∀ cells, r = .ok cells → ∀ v ∈ cells, w'.Whole v) ?_
    (fun w' cells whole v member => whole cells rfl v (Array.mem_toList_iff.1 member))
    fun _ _ _ _ => id
  refine .of_result (outcome_elements a w) fun sized _ cells found => ?_
  split at found
  · cases found
  · cases found
    exact sized.stored (.entity a)

theorem inBounds_of_busyElement : ¬ (Failure.element (.storage .busy)).IsOutOfBounds := by
  rintro ⟨_, _, ⟨⟩⟩

/-- An index may be out of range, but elements are no slots. -/
theorem keeps_element (a : Address) (index : UInt64) :
    Keeps claimed (do return respond .element ([·]) (← elementAt a index)) w P (Within N) := by
  refine .bind (.of_result (outcome_elementAt a index w) (Q := fun w' r => Within N w'
    (respond .element ([·]) r)) fun sized _ => ?_) fun r w' => obeys_pure ?_
  · split
    · exact within_error inBounds_of_busyElement
    refine within_respond ?_ ?_
    · intro v found
      exact List.forall_mem_singleton.2 (sized.stored (.entity a) v (mem_of_elementOf found))
    · rintro - e failed
      unfold elementOf at failed
      split at failed
      · cases failed
      · cases failed
        exact id
  · rintro - ⟨-, -, -, within⟩
    exact within

theorem keeps_setElement (a : Address) (index : UInt64) (value : Operand) :
    Keeps claimed (do return respond .element (fun _ => []) (← setElementAt a index
      (← valueOf value))) w P (Within N) := by
  refine Obeys.valueOf_bind (keeps_respond .element (fun _ => [])
    (Q := fun _ r => ∀ e, r = .error e → ¬ (Failure.element e).IsOutOfBounds) ?_
    (fun _ _ _ => nofun) fun _ w' e inBounds => inBounds e rfl)
  have outcome := outcome_setElementAt a index (value.value w.host) w
  split at outcome
  · split at outcome
    · refine .of_outcome outcome fun sized _ => ?_
      obtain ⟨after, grown⟩ := World.sized_write sized ⟨.entity a, index.toNat⟩
        (whole_value sized value)
      exact ⟨after, grown, nofun⟩
    · refine .of_result outcome ?_
      rintro - - _ ⟨⟩
      exact id
  · refine .of_result outcome ?_
    rintro - - _ ⟨⟩
    exact inBounds_of_busyElement

theorem keeps_allocateItems (items : List Operand) {shape : Shape} {handle : Address → Value}
    (collection : ∀ t, shape ≠ .object t)
    (whole : ∀ (w : World Code Memory) a, w.shape? a = some shape → w.Whole (handle a)) :
    Keeps claimed (allocateItems items shape handle) w P (Within N) := by
  refine .of_outcome (outcome_allocateItems items shape handle w) fun sized _ => ?_
  have size (n : Nat) (count : w.slotCountOfShape? shape = some n) :
      (items.map (·.value w.host)).toArray.size = n := by
    cases shape with
    | object t => exact absurd rfl (collection t)
    | array => cases count
    | list => cases count
  have values : ∀ v ∈ (items.map (·.value w.host)).toArray, w.Whole v := by
    intro v member
    obtain ⟨o, -, rfl⟩ := List.mem_map.1 (List.mem_toArray.1 member)
    exact whole_value sized o
  obtain ⟨after, grown⟩ := World.sized_allocate sized
    (fun t object => absurd object (collection t)) size values
  refine ⟨after, grown, within_one (whole _ _ ?_)⟩
  rw [World.shape?_allocate]
  exact if_pos rfl

/-- A new array has as many elements as it is given. -/
theorem created_array (beh : Behaviour Code Memory) (items : List Operand)
    (w : World Code Memory) :
    let made := (runOperation beh (.array items)).outcome w
    ∃ a, made.1 = .ok [.array a] ∧ made.2.shape? a = some .array ∧
      (made.2.cells (.entity a)).size = items.length := by
  have made : (runOperation beh (.array items)).outcome w = (.ok [.array w.entities.size],
      (w.allocate .array (items.map (·.value w.host)).toArray).2) :=
    outcome_allocateItems items .array .array w
  have contents : (w.allocate .array (items.map (·.value w.host)).toArray).2.cells
      (.entity w.entities.size) = (items.map (·.value w.host)).toArray := World.cells_allocate ..
  rw [made]
  refine ⟨w.entities.size, rfl, ?_, ?_⟩
  · rw [World.shape?_allocate]
    exact if_pos rfl
  · rw [contents, List.size_toArray, List.length_map]

theorem keeps_borrow (o : Operand) (forWriting : Bool) :
    Keeps claimed (borrow o forWriting) w P (Within N) := by
  unfold borrow
  refine Obeys.valueOf_bind (.getWorld_bind ?_)
  split
  · exact obeys_pure fun _ _ => within_error id
  next a here =>
  dsimp only
  split
  · refine obeys_pure fun _ _ => within_error ?_
    rintro ⟨_, _, ⟨⟩⟩
  next granted _ =>
  refine .bind (keeps_modify fun sized _ => World.sized_setBorrow sized (.entity a) granted)
    fun _ w' => ?_
  exact .bind (keeps_modifyMemory_of_eq (fun _ => rfl) fun _ => rfl)
    fun _ w'' => obeys_pure fun _ _ => within_ok nofun

theorem keeps_onGuard (i : Nat) {body : Guard → Array Value → Act Code Response}
    (h : ∀ guard, Keeps claimed (body guard (w.cells (.entity guard.address))) w P (Within N)) :
    Keeps claimed (onGuard i body) w P (Within N) :=
  obeys_onGuard (within_error id) fun guard _ => h guard

theorem keeps_release (i : Nat) : Keeps claimed (runOperation beh (.release i)) w P (Within N) := by
  refine keeps_onGuard i fun guard => ?_
  refine .bind (keeps_modify fun sized _ => World.sized_setBorrow sized _ _) fun _ w' => ?_
  exact .bind (keeps_modifyMemory_of_eq (fun _ => rfl) fun _ => rfl)
    fun _ w'' => obeys_pure fun _ _ => within_ok nofun

theorem keeps_advance (i : Nat) : Keeps claimed (runOperation beh (.advance i)) w P (Within N) := by
  refine keeps_onGuard i fun guard => ?_
  exact .bind (keeps_modifyMemory_of_eq (fun _ => rfl) fun _ => rfl)
    fun _ w' => obeys_pure fun _ _ => within_one (.other nofun nofun)

theorem keeps_contents (i : Nat) :
    Keeps claimed (runOperation beh (.contents i)) w P (Within N) := by
  refine keeps_onGuard i fun guard => obeys_pure fun sized _ => within_ok fun v member => ?_
  exact sized.stored _ v (Array.mem_toList_iff.1 member)

theorem keeps_current (i : Nat) : Keeps claimed (runOperation beh (.current i)) w P (Within N) := by
  refine keeps_onGuard i fun guard => obeys_pure fun sized _ => within_ok fun v member => ?_
  obtain ⟨position, -, here⟩ := Option.bind_eq_some_iff.1 (Option.mem_toList.1 member)
  exact sized.stored _ v (Array.mem_of_getElem? here)

theorem size_replace (cursor : Cursor) (cells : Array Value) (v : Value) :
    (cursor.replace cells v).2.size = cells.size := by
  unfold Cursor.replace
  split
  · rfl
  · split
    · exact Array.size_setIfInBounds
    · rfl

/-- What a cursor shows may be replaced, one value by another. -/
theorem keeps_replace (i : Nat) (value : Operand) :
    Keeps claimed (runOperation beh (.replace i value)) w P (Within N) := by
  refine keeps_onGuard i fun guard => ?_
  split
  · refine Obeys.valueOf_bind ?_
    refine .bind (keeps_modify fun sized _ => World.sized_modifyCells sized ?_ ?_)
      fun _ w' => obeys_pure fun _ _ => within_one (.other nofun nofun)
    · intro v member
      rcases mem_of_replace member with old | rfl
      · exact sized.stored _ v old
      · exact whole_value sized value
    · exact fun _ => size_replace ..
  · exact obeys_pure fun _ _ => within_error id

/-! ## 4. Types and instances -/

theorem keeps_declareType (kind : TypeKind) (name : String) {clauses : List (Clause Code)}
    (whole : w.Sized claimed → ∀ name kind v, .staticField name kind v ∈ clauses → w.Whole v) :
    Keeps claimed (declareType beh kind name clauses) w P (Within N) := by
  unfold declareType
  refine .getWorld_bind ?_
  split
  case isFalse => exact obeys_pure fun _ _ => within_error id
  next earlier =>
  rcases declared : w.declare (.ofClauses kind name clauses) with e | ⟨t, w'⟩
  · exact obeys_pure fun _ _ => within_error id
  have counted (sized : w.Sized claimed) :
      (TypeBuilder.ofClauses kind name clauses).Counted (· < w.types.size) (fun _ => True)
        fun _ v => w.Whole v := by
    refine TypeBuilder.counted_ofClauses kind name fun clause member => ?_
    cases clause with
    | «extends» base =>
      have named := List.all_eq_true.1 earlier _ member
      show base < w.types.size
      simpa [typesOf] using named
    | staticField name kind v => exact whole sized name kind v member
    | field | fieldWith | property | method | nonPublic => trivial
  refine .bind (keeps_modify fun sized _ => World.sized_declare sized declared (counted sized))
    fun _ w'' => ?_
  exact .bind (keeps_modifyMemory_of_eq (fun _ => rfl) fun _ => rfl)
    fun _ _ => obeys_pure fun _ _ => within_ok (by rintro _ ⟨⟩)

theorem keeps_declare (kind : TypeKind) (name : String) (clauses : List (Clause Code × Operand)) :
    Keeps claimed (runOperation beh (.declare kind name clauses)) w P (Within N) := by
  refine .gets_bind (keeps_declareType kind name ?_)
  intro sized name kind v member
  obtain ⟨⟨clause, o⟩, -, made⟩ := List.mem_map.1 member
  rw [value_of_withValue made]
  exact whole_value sized o

section

variable (obedient : Obedient (sizes Code claimed) beh)
include obedient

/-- The first value of a field is whole, be it a default or the result of code. -/
theorem keeps_initialValue {t : TypeId}
    (instances : ∀ s < t, ∀ w : World Code Memory,
      Keeps claimed (newInstance beh s) w (s < w.types.size) World.Whole)
    (init : FieldInit Code) (w : World Code Memory) :
    Keeps claimed (initialValue beh t init) w (t < w.types.size) World.Whole := by
  have native (datum : Native) : Keeps claimed (pure (.ofNative datum) : Act Code Value) w
      (t < w.types.size) World.Whole :=
    obeys_pure fun _ _ => World.whole_ofNative w datum
  rcases init with k | code
  · by_cases struct : ∃ s, k = .struct s
    case neg =>
      obtain ⟨datum, begun, -⟩ := initialValue_default beh t (not_exists.1 struct)
      rw [begun]
      exact native datum
    case pos =>
      obtain ⟨s, rfl⟩ := struct
      rw [initialValue]
      split
      · next earlier =>
        exact (instances s earlier w).given fun _ declared => Nat.lt_trans earlier declared
      · exact native .nothing
  · rw [initialValue]
    exact (obedient.initial code w).given fun _ _ => trivial

/-- There are as many first values as fields. -/
theorem keeps_inits {t : TypeId}
    (instances : ∀ s < t, ∀ w : World Code Memory,
      Keeps claimed (newInstance beh s) w (s < w.types.size) World.Whole)
    (inits : List (FieldInit Code)) (w : World Code Memory) :
    Keeps claimed (inits.mapM (initialValue beh t)) w (t < w.types.size)
      fun w' vs => (∀ v ∈ vs, w'.Whole v) ∧ vs.length = inits.length := by
  induction inits generalizing w with
  | nil =>
    rw [List.mapM_nil]
    exact obeys_pure fun _ _ => ⟨nofun, rfl⟩
  | cons init inits ih =>
    rw [List.mapM_cons]
    refine .bind (keeps_initialValue obedient instances init w) fun v w' => ?_
    refine .bind ((ih w').given ?_) fun vs w'' => obeys_pure ?_
    · rintro - ⟨-, declared, grown, -⟩
      exact Nat.lt_of_lt_of_le declared grown.types.size
    · -- The first value was made before the others, in a world that has grown since.
      rintro - ⟨-, ⟨-, -, -, whole⟩, grown, wholes, length⟩
      refine ⟨fun u member => ?_, congrArg (· + 1) length⟩
      rcases List.mem_cons.1 member with rfl | later
      · exact whole.mono grown.toExtends
      · exact wholes u later

/-- A new instance has its slots, also if code has declared types meanwhile. -/
theorem keeps_newInstance (t : TypeId) (w : World Code Memory) :
    Keeps claimed (newInstance beh t) w (t < w.types.size) World.Whole := by
  induction t using Nat.strongRecOn generalizing w with
  | ind t ih =>
    rw [newInstance]
    refine .gets_bind (.bind (keeps_inits obedient ih (w.types.info t).inits w)
      fun fields w' => ?_)
    have count (declared : t < w.types.size) (grown : w.Grows w')
        (length : fields.length = (w.types.info t).inits.length) :
        fields.length = (w'.types.info t).fieldSlots := by
      rw [grown.types.info t declared]
      exact length
    rcases w.types.kind t with _ | _
    · refine .of_outcome rfl ?_
      rintro sized' ⟨-, declared, grown, whole, length⟩
      have object : ∀ s, Shape.object t = .object s → s < w'.types.size := by
        rintro _ ⟨⟩
        exact Nat.lt_of_lt_of_le declared grown.types.size
      have size : ∀ n, w'.slotCountOfShape? (.object t) = some n → fields.toArray.size = n := by
        rintro _ ⟨⟩
        exact List.size_toArray.trans (count declared grown length)
      obtain ⟨after, grown'⟩ := World.sized_allocate sized' object size
        fun v member => whole v (List.mem_toArray.1 member)
      exact ⟨after, grown', World.whole_object ..⟩
    · refine obeys_pure ?_
      rintro sized' ⟨-, declared, grown, whole, length⟩
      exact .struct (Nat.lt_of_lt_of_le declared grown.types.size) (count declared grown length)
        whole

/-! ## 5. All commands -/

theorem keeps_create (t : TypeId) :
    Keeps claimed (runOperation beh (.create t)) w P (Within N) := by
  refine .getWorld_bind ?_
  split
  · next declared =>
    refine .bind ((keeps_newInstance obedient t w).given fun _ _ => declared)
      fun v w' => obeys_pure ?_
    rintro - ⟨-, -, -, whole⟩
    exact within_one whole
  · exact obeys_pure fun _ _ => within_error id

omit obedient in
theorem inBounds_of_fault {e : AccessError} (inBounds : e.fault.IsInBounds) :
    ¬ (Failure.access e).IsOutOfBounds := by
  rintro ⟨slot, len, same⟩
  exact inBounds slot len same

omit obedient in
theorem keeps_fromRoot (values : α → List Value) {root : Value}
    {call : Act Code (Except AccessError α)} {Q : World Code Memory → Except AccessError α → Prop}
    (keeps : Keeps claimed call w P Q) (ok : ∀ w' a, Q w' (.ok a) → ∀ v ∈ values a, w'.Whole v)
    (error : ∀ w' e, Q w' (.error e) → e.fault.IsInBounds) :
    Keeps claimed (do return respondAccess values (← PathAccess.fromRoot root call)) w P
      (Within N) :=
  obeys_fromRoot (within_error id) (keeps_respond .access values keeps ok
    fun _ w' e given_ => inBounds_of_fault (error w' e given_))

theorem keeps_get (options : AccessOptions) (root : Operand) (path : String) :
    Keeps claimed (runOperation beh (.get options root path)) w P (Within N) := by
  refine Obeys.valueOf_bind (keeps_fromRoot ([·]) ((obeys_getValue obedient options _ path w).given
    fun sized _ => whole_value sized root) ?_ ?_)
  · exact fun w' v result => List.forall_mem_singleton.2 (result.good v rfl)
  · exact fun w' e result => result.allowed e rfl

theorem keeps_view (options : AccessOptions) (type : NativeType) (root : Operand)
    (path : String) :
    Keeps claimed (runCommand beh (.view options type root path)) w P (Within N) := by
  refine Obeys.valueOf_bind (keeps_fromRoot (fun _ => []) ((obeys_get obedient options type _ path
    w).given fun sized _ => whole_value sized root) (fun _ _ _ => nofun) ?_)
  exact fun w' e allowed => allowed e rfl

theorem keeps_set (options : AccessOptions) (root : Operand) (path : String) (value : Operand) :
    Keeps claimed (runOperation beh (.set options root path value)) w P (Within N) := by
  refine Obeys.valueOf_bind (Obeys.valueOf_bind (keeps_fromRoot (fun _ => [])
    ((obeys_set obedient options _ path _ w).given fun sized _ =>
      ⟨whole_value sized root, whole_value sized value⟩) (fun _ _ _ => nofun) ?_))
  exact fun w' e allowed => allowed e rfl

theorem keeps_writeDeferred (container : Operand) (token : Token) (value : Operand) :
    Keeps claimed (runOperation beh (.write container token value)) w P (Within N) := by
  refine Obeys.valueOf_bind (Obeys.valueOf_bind (keeps_respond .fault (fun _ => [])
    ((obeys_apply obedient _ token _ w).given fun sized _ =>
      ⟨whole_value sized container, whole_value sized value⟩) (fun _ _ _ => nofun) ?_))
  rintro - w' fault allowed outOfBounds
  cases fault with
  | storage e =>
    obtain ⟨slot, len, rfl⟩ := outOfBounds
    exact allowed _ rfl slot len rfl
  | _ => exact outOfBounds

/-- Every operation stays in bounds. -/
theorem keeps_runOperation (op : Operation Code) (w : World Code Memory) :
    Keeps claimed (runOperation beh op) w P (Within (Command.operate op).ByNumber) := by
  cases op with
  | declare kind name clauses => exact keeps_declare kind name clauses
  | create t => exact keeps_create obedient t
  | field on name => exact keeps_readField on name
  | setField on name value => exact keeps_writeField on name value
  | slot on i => exact keeps_readSlotOf on i
  | static t i =>
    exact keeps_respond .storage ([·]) (keeps_readSlot (.statics t) i)
      (fun _ _ => whole_of_result) fun named => absurd trivial named
  | get options root path => exact keeps_get obedient options root path
  | set options root path value => exact keeps_set obedient options root path value
  | write container token value => exact keeps_writeDeferred obedient container token value
  | array items =>
    show Keeps claimed (allocateItems items .array .array) w P (Within False)
    exact keeps_allocateItems items (fun _ => nofun) fun _ _ _ => .other nofun nofun
  | list items =>
    show Keeps claimed (allocateItems items .list .list) w P (Within False)
    exact keeps_allocateItems items (fun _ => nofun) fun _ _ here => .list here
  | push on value => exact keeps_onList on fun a => keeps_push a value
  | pop on => exact keeps_onList on keeps_pop
  | truncate on len => exact keeps_onList on fun a => keeps_truncate a len
  | items on => exact keeps_onCollection on fun a => keeps_items a
  | element on index => exact keeps_onCollection on fun a => keeps_element a index
  | setElement on index value =>
    exact keeps_onCollection on fun a => keeps_setElement a index value
  | borrow on forWriting => exact keeps_borrow on forWriting
  | release i => exact keeps_release i
  | contents i => exact keeps_contents i
  | advance i => exact keeps_advance i
  | current i => exact keeps_current i
  | replace i value => exact keeps_replace i value

omit obedient in
theorem keeps_writeNumbered (id : StorageId) (slot : Nat) (value : Operand) :
    Keeps claimed (do return respond .storage (fun _ => []) (← writeSlot id slot
      (← valueOf value))) w P (Within True) := by
  refine Obeys.valueOf_bind (keeps_respond .storage (fun _ => []) ((keeps_writeSlot id slot _).given
    fun sized _ => whole_value sized value) (fun _ _ _ => nofun) ?_)
  exact fun named => absurd trivial named

/-- Every command stays in bounds. -/
theorem keeps_runCommand (command : Command Code) (w : World Code Memory) :
    Keeps claimed (runCommand beh command) w P (Within command.ByNumber) := by
  cases command with
  | operate op => exact keeps_runOperation obedient op w
  | writeSlot on slot value =>
    refine Obeys.valueOf_bind ?_
    split
    · exact keeps_writeNumbered _ slot value
    · exact obeys_pure fun _ _ => within_error id
  | writeStatic t slot value => exact keeps_writeNumbered _ slot value
  | view options type root path => exact keeps_view obedient options type root path

end

end ObjectGraph.Client
