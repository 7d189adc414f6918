import ObjectGraph.Proofs.Access.Place

/-!
# A deferred write is all or nothing

A deferred write looks at all reasons for a refusal before it changes anything. So it leaves the
world as it was, or overwrites the location that its token names and nothing else, or hands over
to a setter and leaves what the setter has left.

1. `DeferredWrite.Ends`: the host's code plays no part in a write;
2. `apply_cases`: all that a write can do;
3. `apply_all_or_nothing`: what follows from how the write has ended.
-/

namespace ObjectGraph

open ObjectGraph.Action

variable {Code Host : Type}

/-! ## 1. Refusals -/

/-- The fault is not one that a setter has reported. -/
def AccessFault.IsRefusal (fault : AccessFault) : Prop := ∀ e, fault ≠ .setterFailed e

/-- The write does not depend on the host's code: under every behaviour it ends in this way. -/
def DeferredWrite.Ends (write : DeferredWrite) (v : Value) (w : World Code Host)
    (result : Except AccessFault Unit) (w' : World Code Host) : Prop :=
  ∀ beh : Behaviour Code Host, (write.apply beh v).outcome w = (result, w')

theorem isRefusal_ofStorage (e : StorageError) : (AccessFault.ofStorage e).IsRefusal := by
  intro e'
  cases e <;> simp [AccessFault.ofStorage]

theorem isRefusal_ofElement (e : ElementError) : (AccessFault.ofElement e).IsRefusal := by
  cases e with
  | outOfRange index len => intro e'; simp [AccessFault.ofElement]
  | storage e => exact isRefusal_ofStorage e

theorem isRefusal_resolveOn {w : World Code Host} {container : Value} {name : String}
    {fault : AccessFault} (h : w.resolveOn container name = .error fault) : fault.IsRefusal := by
  unfold World.resolveOn at h
  split at h
  · cases h
  · cases h
    exact nofun

/-- A write to a slot is refused, or overwrites the location. -/
theorem writeSlot_cases (id : StorageId) (slot : Nat) (v : Value) (w : World Code Host) :
    (∃ e, (writeSlot id slot v).outcome w = (.error e, w)) ∨
      w.Writable ⟨id, slot⟩ ∧
        (writeSlot id slot v).outcome w = (.ok (), w.write ⟨id, slot⟩ v) := by
  rw [outcome_writeSlot]
  split
  · next unused =>
    split
    · next inside => exact .inr ⟨⟨World.read?_isSome.2 inside, unused⟩, rfl⟩
    · exact .inl ⟨_, rfl⟩
  · exact .inl ⟨_, rfl⟩

/-- A write to an element is refused, or overwrites the location at its index. -/
theorem setElementAt_cases (a : Address) (index : UInt64) (v : Value) (w : World Code Host) :
    (∃ e, (setElementAt a index v).outcome w = (.error e, w)) ∨
      w.Writable ⟨.entity a, index.toNat⟩ ∧
        (setElementAt a index v).outcome w = (.ok (), w.write ⟨.entity a, index.toNat⟩ v) := by
  rw [outcome_setElementAt]
  split
  · next unused =>
    split
    · next inside => exact .inr ⟨⟨World.read?_isSome.2 inside, unused⟩, rfl⟩
    · exact .inl ⟨_, rfl⟩
  · exact .inl ⟨_, rfl⟩

/-! ## 2. What a write can do -/

namespace DeferredWrite

/-- If the token names a field, its kind accepts the value. -/
def Suits (w : World Code Host) (container : Value) (token : Token) (v : Value) : Prop :=
  ∀ name owner member slot kind, token = .member name →
    w.resolveOn container name = .ok { owner, member } → member.content = .field slot kind →
    w.accepts kind v = true

theorem suits_element {w : World Code Host} {container : Value} {index : UInt64} {v : Value} :
    Suits w container (.element index) v := by
  rintro _ _ _ _ _ ⟨⟩

theorem isRefusal_immutable (w : World Code Host) (container : Value) :
    (immutable w container).IsRefusal := by
  rintro e ⟨⟩

/-- A write to a field: the checks, in this order, and the write to the slot. -/
theorem outcome_writeMember_field {w : World Code Host} {container : Value} {name : String}
    {owner : TypeId} {member : Member Code} {slot : Nat} {kind : ValueKind}
    (beh : Behaviour Code Host) (v : Value)
    (found : w.resolveOn container name = .ok { owner, member })
    (content : member.content = .field slot kind) :
    (writeMember beh container name v).outcome w =
      if isObservable member container = false then (.error (immutable w container), w)
      else if w.accepts kind v = false then
        (.error (.typeMismatch (kind.text w.types.name) v.tag), w)
      else if member.isStatic then
        ((writeSlot (.statics owner) slot v).outcome w).map (·.mapError .ofStorage) id
      else (writeInstanceSlot container slot v).outcome w := by
  rw [writeMember, outcome_bind, outcome_getWorld]
  simp only [found, content]
  rcases isObservable member container with _ | _
  · rfl
  rcases w.accepts kind v with _ | _
  · rfl
  rcases member.isStatic with _ | _
  · rfl
  · rfl

/-- A write to a field is refused, or overwrites the place of the field with a value that the field
accepts. -/
theorem writeMember_field_cases {w : World Code Host} {container : Value} {name : String}
    {owner : TypeId} {member : Member Code} {slot : Nat} {kind : ValueKind} (v : Value)
    (found : w.resolveOn container name = .ok { owner, member })
    (content : member.content = .field slot kind) :
    (∃ fault : AccessFault, fault.IsRefusal ∧ ∀ beh : Behaviour Code Host,
      (writeMember beh container name v).outcome w = (.error fault, w)) ∨
    (w.accepts kind v = true ∧
      ∃ l, World.fieldPlace container owner member.isStatic slot = .cell l ∧ w.Writable l ∧
        ∀ beh : Behaviour Code Host,
          (writeMember beh container name v).outcome w = (.ok (), w.write l v)) := by
  simp only [fun beh => outcome_writeMember_field beh v found content]
  by_cases observable : isObservable member container = false
  · simp only [if_pos observable]
    exact .inl ⟨immutable w container, isRefusal_immutable w container, fun _ => rfl⟩
  by_cases accepted : w.accepts kind v = false
  · simp only [if_neg observable, if_pos accepted]
    exact .inl ⟨.typeMismatch (kind.text w.types.name) v.tag, nofun, fun _ => rfl⟩
  simp only [if_neg observable, if_neg accepted]
  rw [Bool.not_eq_false] at accepted
  rcases member.isStatic with _ | _
  · -- what is left are the fields of objects; no other handle has members
    by_cases handle : ∃ a, container = .object a
    · obtain ⟨a, rfl⟩ := handle
      rcases writeSlot_cases (.entity a) slot v w with ⟨e, refused⟩ | ⟨writable, done⟩
      · refine .inl ⟨.ofStorage e, isRefusal_ofStorage e, fun _ => ?_⟩
        rw [if_neg Bool.false_ne_true, writeInstanceSlot, outcome_bind, refused]
        rfl
      · refine .inr ⟨accepted, ⟨.entity a, slot⟩, rfl, writable, fun _ => ?_⟩
        rw [if_neg Bool.false_ne_true, writeInstanceSlot, outcome_bind, done]
        rfl
    · refine .inl ⟨immutable w container, isRefusal_immutable w container, fun _ => ?_⟩
      rw [if_neg Bool.false_ne_true]
      unfold writeInstanceSlot
      split
      · exact absurd ⟨_, rfl⟩ handle
      · rfl
  · rcases writeSlot_cases (.statics owner) slot v w with ⟨e, refused⟩ | ⟨writable, done⟩
    · refine .inl ⟨.ofStorage e, isRefusal_ofStorage e, fun _ => ?_⟩
      rw [if_pos rfl, refused]
      rfl
    · refine .inr ⟨accepted, ⟨.statics owner, slot⟩, rfl, writable, fun _ => ?_⟩
      rw [if_pos rfl, done]
      rfl

/-- A write that names a property with a setter runs it, once, from the world as it is and with
the receiver that the member asks for. It is refused if the setter would act on a copy. -/
theorem outcome_writeMember_property {w : World Code Host} {container : Value} {name : String}
    {owner : TypeId} {member : Member Code} {getter setter : Code} (beh : Behaviour Code Host)
    (v : Value) (found : w.resolveOn container name = .ok { owner, member })
    (content : member.content = .property getter (some setter)) :
    (writeMember beh container name v).outcome w =
      if isObservable member container then
        ((beh.setter setter (member.receiver? container) v).outcome w).map
          (·.mapError .setterFailed) id
      else (.error (immutable w container), w) := by
  rw [writeMember, outcome_bind, outcome_getWorld]
  simp only [found, content]
  rcases isObservable member container with _ | _
  · rfl
  · rfl

/-- Below a value that is not null, a name is written as a member. -/
theorem apply_member (beh : Behaviour Code Host) {container : Value}
    (notNull : container.isNull = false) (name : String) (v : Value) :
    apply beh ⟨container, .member name⟩ v = writeMember beh container name v := by
  rw [apply, notNull]
  rfl

/-- Below a collection, an index is written as an element. -/
theorem outcome_apply_element (beh : Behaviour Code Host) {container : Value} {a : Address}
    (collection : container.collection? = some a) (index : UInt64) (v : Value)
    (w : World Code Host) :
    (apply beh ⟨container, .element index⟩ v).outcome w =
      ((setElementAt a index v).outcome w).map (·.mapError .ofElement) id := by
  rw [apply, World.isNull_of_collection? collection, if_neg Bool.false_ne_true]
  simp only [writeElement, collection]
  rfl

/-- All that a deferred write can do. It is refused and changes nothing, it overwrites the location
that its token names, or it runs the setter that its token names, once. -/
theorem apply_cases (container : Value) (token : Token) (v : Value) (w : World Code Host) :
    (∃ fault : AccessFault, fault.IsRefusal ∧ Ends ⟨container, token⟩ v w (.error fault) w) ∨
    (Suits w container token v ∧ ∃ l, w.place container token = .cell l ∧ w.Writable l ∧
      Ends ⟨container, token⟩ v w (.ok ()) (w.write l v)) ∨
    (∃ name owner member getter setter, token = .member name ∧
      w.resolveOn container name = .ok { owner, member } ∧
      member.content = .property getter (some setter) ∧ isObservable member container = true ∧
      ∀ beh : Behaviour Code Host, (apply beh ⟨container, token⟩ v).outcome w =
        ((beh.setter setter (member.receiver? container) v).outcome w).map
          (·.mapError .setterFailed) id) := by
  unfold Ends
  by_cases null : container.isNull = true
  · exact .inl ⟨.nullIntermediate, by rintro _ ⟨⟩, fun beh => by simp [apply, null]⟩
  cases token with
  | element index =>
    rcases collection : container.collection? with _ | a
    · exact .inl ⟨.notCollection container.tag, by rintro _ ⟨⟩,
        fun beh => by simp [apply, null, writeElement, collection]⟩
    · have place : w.place container (.element index) = .cell ⟨.entity a, index.toNat⟩ := by
        simp [World.place, collection]
      rcases setElementAt_cases a index v w with ⟨e, refused⟩ | ⟨writable, done⟩
      · exact .inl ⟨.ofElement e, isRefusal_ofElement e,
          fun beh => by rw [outcome_apply_element beh collection, refused]; rfl⟩
      · exact .inr (.inl ⟨suits_element, _, place, writable,
          fun beh => by rw [outcome_apply_element beh collection, done]; rfl⟩)
  | member name =>
    rw [Bool.not_eq_true] at null
    simp only [fun beh => apply_member beh null name v]
    rcases found : w.resolveOn container name with fault | ⟨owner, member⟩
    · refine .inl ⟨fault, isRefusal_resolveOn found, fun beh => ?_⟩
      rw [writeMember, outcome_bind, outcome_getWorld, found]
      rfl
    rcases content : member.content with ⟨slot, kind⟩ | ⟨getter, setter⟩ | ⟨call⟩
    · rw [World.place_of_field found content]
      rcases writeMember_field_cases v found content with refused | ⟨accepted, done⟩
      · exact .inl refused
      · refine .inr (.inl ⟨?_, done⟩)
        rintro _ _ _ _ _ ⟨⟩ found' content'
        cases found.symm.trans found'
        cases content.symm.trans content'
        exact accepted
    · rcases setter with _ | setter
      · refine .inl ⟨.notWritable .property name, by rintro _ ⟨⟩, fun beh => ?_⟩
        rw [writeMember, outcome_bind, outcome_getWorld]
        simp only [found, content]
        rfl
      by_cases observable : isObservable member container = true
      · refine .inr (.inr ⟨name, owner, member, getter, setter, rfl, found, content, observable,
          fun beh => ?_⟩)
        rw [outcome_writeMember_property beh v found content, if_pos observable]
      · refine .inl ⟨immutable w container, isRefusal_immutable w container, fun beh => ?_⟩
        rw [outcome_writeMember_property beh v found content, if_neg observable]
    · refine .inl ⟨.notWritable .method name, by rintro _ ⟨⟩, fun beh => ?_⟩
      rw [writeMember, outcome_bind, outcome_getWorld]
      simp only [found, content]
      rfl

/-! ## 3. All or nothing -/

variable {beh : Behaviour Code Host} {container : Value} {token : Token} {v : Value}
  {w w' : World Code Host}

/-- A refusal leaves the world as it was. -/
theorem ends_of_refusal {fault : AccessFault}
    (failed : (apply beh ⟨container, token⟩ v).outcome w = (.error fault, w'))
    (refusal : fault.IsRefusal) :
    w' = w ∧ Ends ⟨container, token⟩ v w (.error fault) w := by
  rcases apply_cases container token v w with ⟨fault', -, ends⟩ | ⟨-, l, -, -, ends⟩ |
    ⟨_, _, member, _, setter, rfl, _, _, _, runs⟩
  · obtain ⟨same, rfl⟩ := Prod.mk.inj ((ends beh).symm.trans failed)
    cases same
    exact ⟨rfl, ends⟩
  · cases (ends beh).symm.trans failed
  · -- what the setter reports is marked as such, and so is no refusal
    rw [runs beh] at failed
    rcases left : (beh.setter setter (member.receiver? container) v).outcome w with
      ⟨e | done, w''⟩
    · rw [left] at failed
      cases failed
      exact absurd rfl (refusal e)
    · rw [left] at failed
      cases failed

/-- A write that succeeds, and whose token names no code, was free to write the value to the
location that the token names, and has done nothing else. -/
theorem write_of_apply
    (done : (apply beh ⟨container, token⟩ v).outcome w = (.ok (), w'))
    (plain : w.place container token ≠ .code) :
    ∃ l, w.place container token = .cell l ∧ w.Writable l ∧ Suits w container token v ∧
      w' = w.write l v := by
  rcases apply_cases container token v w with ⟨fault', -, ends⟩ |
    ⟨suits, l, here, writable, ends⟩ | ⟨_, _, _, _, setter, rfl, found, content, _, _⟩
  · cases (ends beh).symm.trans done
  · cases (ends beh).symm.trans done
    exact ⟨l, here, writable, suits, rfl⟩
  · exact absurd (World.place_of_property found content) plain

/-- A write that succeeds, and whose token names no code, overwrites the location that the token
names. -/
theorem overwritten_of_apply
    (done : (apply beh ⟨container, token⟩ v).outcome w = (.ok (), w'))
    (plain : w.place container token ≠ .code) :
    ∃ l, w.place container token = .cell l ∧ w.Overwritten l v w' ∧
      Ends ⟨container, token⟩ v w (.ok ()) w' := by
  rcases apply_cases container token v w with ⟨fault', -, ends⟩ |
    ⟨-, l, here, writable, ends⟩ | ⟨_, _, _, _, setter, rfl, found, content, _, _⟩
  · cases (ends beh).symm.trans done
  · cases (ends beh).symm.trans done
    exact ⟨l, here, World.overwritten_write writable v, ends⟩
  · exact absurd (World.place_of_property found content) plain

theorem receiver?_eq_none_iff (member : Member Code) (container : Value) :
    member.receiver? container = none ↔ member.isStatic = true := by
  unfold Member.receiver?
  split
  · next static => simp [static]
  · next notStatic => simp [notStatic]

/-- A write to a property with a setter is refused, or is what the setter does. -/
theorem apply_property (beh : Behaviour Code Host) {name : String} {owner : TypeId}
    {member : Member Code} {getter setter : Code} (v : Value)
    (found : w.resolveOn container name = .ok { owner, member })
    (content : member.content = .property getter (some setter)) :
    (∃ fault : AccessFault, fault.IsRefusal ∧
      Ends ⟨container, .member name⟩ v w (.error fault) w) ∨
    (apply beh ⟨container, .member name⟩ v).outcome w =
      ((beh.setter setter (member.receiver? container) v).outcome w).map
        (·.mapError .setterFailed) id := by
  have notNull := World.isNull_of_resolveOn found
  by_cases observable : isObservable member container = true
  · refine .inr ?_
    rw [apply_member beh notNull, outcome_writeMember_property beh v found content,
      if_pos observable]
  · refine .inl ⟨immutable w container, isRefusal_immutable w container, fun beh => ?_⟩
    rw [apply_member beh notNull, outcome_writeMember_property beh v found content,
      if_neg observable]

/-- A member of the instance cannot be written through a struct. -/
theorem refused_on_struct (v : Value) {t : TypeId} {fields : List Value} {name : String}
    {owner : TypeId} {member : Member Code}
    (found : w.resolveOn (.struct t fields) name = .ok { owner, member })
    (instanceMember : member.isStatic = false) :
    ∃ fault : AccessFault, fault.IsRefusal ∧
      Ends ⟨.struct t fields, .member name⟩ v w (.error fault) w := by
  rcases apply_cases (.struct t fields) (.member name) v w with ⟨fault, refusal, ends⟩ |
    ⟨-, l, here, _, _⟩ | ⟨_, _, _, _, _, same, found', _, observable, _⟩
  · exact ⟨fault, refusal, ends⟩
  · rw [World.place, found] at here
    rcases content : member.content with ⟨slot, kind⟩ | _ | _
    · simp [content, World.fieldPlace, instanceMember] at here
    · simp [content] at here
    · simp [content] at here
  · cases same
    cases found'.symm.trans found
    simp [isObservable, instanceMember, Value.isByValue] at observable

/-- A deferred write is all or nothing.

A refusal leaves the world as it was, whatever the host's code would have done. A write that
succeeds, and whose token names no code, overwrites the location that the token names, and no code
has run. A property with a setter is left to that setter, which runs once and has no receiver just
if the member is static; what it leaves is what the write leaves, also when it fails. Members of
the instance cannot be written through a struct, whatever they are. -/
theorem apply_all_or_nothing (beh : Behaviour Code Host) (container : Value) (token : Token)
    (v : Value) (w : World Code Host) :
    (∀ fault w', (apply beh ⟨container, token⟩ v).outcome w = (.error fault, w') →
      fault.IsRefusal → w' = w ∧ Ends ⟨container, token⟩ v w (.error fault) w) ∧
    (∀ w', (apply beh ⟨container, token⟩ v).outcome w = (.ok (), w') →
      w.place container token ≠ .code →
      ∃ l, w.place container token = .cell l ∧ w.Overwritten l v w' ∧
        Ends ⟨container, token⟩ v w (.ok ()) w') ∧
    (∀ name owner member getter setter, token = .member name →
      w.resolveOn container name = .ok { owner, member } →
      member.content = .property getter (some setter) →
      (∃ fault : AccessFault, fault.IsRefusal ∧ Ends ⟨container, token⟩ v w (.error fault) w) ∨
      (member.receiver? container = none ↔ member.isStatic = true) ∧
        (apply beh ⟨container, token⟩ v).outcome w =
          ((beh.setter setter (member.receiver? container) v).outcome w).map
            (·.mapError .setterFailed) id) ∧
    (∀ t fields name owner member, container = .struct t fields → token = .member name →
      w.resolveOn container name = .ok { owner, member } → member.isStatic = false →
      ∃ fault : AccessFault, fault.IsRefusal ∧ Ends ⟨container, token⟩ v w (.error fault) w) := by
  refine ⟨fun fault w' failed refusal => ends_of_refusal failed refusal,
    fun w' done plain => overwritten_of_apply done plain, ?_, ?_⟩
  · rintro name owner member getter setter rfl found content
    rcases apply_property beh v found content with refused | runs
    · exact .inl refused
    · exact .inr ⟨receiver?_eq_none_iff member container, runs⟩
  · rintro t fields name owner member rfl rfl found instanceMember
    exact refused_on_struct v found instanceMember

end DeferredWrite

end ObjectGraph
