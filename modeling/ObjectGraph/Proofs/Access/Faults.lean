import ObjectGraph.Proofs.Access.DeferredWrite

/-!
# Why a step fails

A token that cannot be read, or written, has one of a few causes, and each cause shows in the fault.
A failed step has changed nothing and has run no code, with the one exception of a setter that
fails.

1. `World.Names`: the member that a token names; `run_readStep_congr`: the code that
   reading it runs;
2. `World.Unreadable`, `readStep_error`: the causes why a token is not read;
3. `World.Refuses`, `apply_error`: the causes why a token is not written; `run_apply_congr`: the
   code that writing it runs;
4. `outcome_readStep_of_used`, `outcome_apply_of_used`: tokens that name a location of a storage in
   use.
-/

namespace ObjectGraph

open ObjectGraph.Action

variable {Code Host : Type}

/-! ## 1. Named members -/

/-- On the container the token is the name of the member. -/
def World.Names (w : World Code Host) (container : Value) (token : Token) (name : String)
    (member : Member Code) : Prop :=
  token = .member name ∧ ∃ owner, w.resolveOn container name = .ok { owner, member }

theorem resolveOn_error {w : World Code Host} {container : Value} {name : String}
    {fault : AccessFault} (h : w.resolveOn container name = .error fault) :
    fault = .memberNotFound (w.typeName container) name := by
  unfold World.resolveOn at h
  split at h
  · cases h
  · cases h
    rfl

/-- Reading a token is the same under two behaviours if the code that it names, if it names any and
reading may run it, runs the same. The options matter for methods only. -/
theorem run_readStep_congr {beh beh' : Behaviour Code Host} {options options' : AccessOptions}
    {w : World Code Host} {container : Value} {token : Token}
    (getter : ∀ name member getter setter, w.Names container token name member →
      member.content = .property getter setter →
      (beh'.getter getter (member.receiver? container)).run w =
        (beh.getter getter (member.receiver? container)).run w)
    (method : ∀ name member call, w.Names container token name member →
      member.content = .method call → options' = options ∧ (options.methodCalls = .invoke →
        (beh'.method call (member.receiver? container)).run w =
          (beh.method call (member.receiver? container)).run w)) :
    (readStep beh' options' container token).run w =
      (readStep beh options container token).run w := by
  unfold readStep
  by_cases null : container.isNull = true
  · rw [if_pos null, if_pos null]
  rw [if_neg null, if_neg null]
  cases token with
  | element index => rfl
  | member name =>
    simp only [readMember, run_bind, run_getWorld]
    rcases found : w.resolveOn container name with fault | ⟨owner, member⟩
    · rfl
    rcases content : member.content with ⟨slot, kind⟩ | ⟨get, setter⟩ | ⟨call⟩
    · simp only [content]
    · simp only [content, run_bind, getter name member get setter ⟨rfl, owner, found⟩ content]
    · obtain ⟨rfl, same⟩ := method name member call ⟨rfl, owner, found⟩ content
      simp only [content]
      rcases calls : options'.methodCalls with _ | _
      · simp only [run_bind, same calls]
      · rfl

section

variable {w : World Code Host} {container : Value} {token : Token} {name : String}
  {member : Member Code} (beh : Behaviour Code Host) (options : AccessOptions)

theorem readStep_of_names (named : w.Names container token name member) :
    (readStep beh options container token).outcome w =
      (readMember beh options container name).outcome w := by
  obtain ⟨rfl, owner, found⟩ := named
  rw [readStep, World.isNull_of_resolveOn found]
  rfl

/-- Reading a property is running its getter. -/
theorem outcome_readStep_property (named : w.Names container token name member) {getter : Code}
    {setter : Option Code} (content : member.content = .property getter setter) :
    (readStep beh options container token).outcome w =
      ((beh.getter getter (member.receiver? container)).outcome w).map .ok id := by
  rw [readStep_of_names beh options named]
  obtain ⟨rfl, owner, found⟩ := named
  rw [readMember, outcome_bind, outcome_getWorld]
  simp only [found, content]
  rfl

/-- Reading a method is calling it, if that is allowed. -/
theorem outcome_readStep_method (named : w.Names container token name member) {call : Code}
    (content : member.content = .method call) :
    (readStep beh options container token).outcome w =
      match options.methodCalls with
      | .invoke => ((beh.method call (member.receiver? container)).outcome w).map .ok id
      | .deny => (.error (.methodCallDenied name), w) := by
  rw [readStep_of_names beh options named]
  obtain ⟨rfl, owner, found⟩ := named
  rw [readMember, outcome_bind, outcome_getWorld]
  simp only [found, content]
  cases options.methodCalls <;> rfl

/-- A token that stands for code names a property or a method. -/
theorem names_of_place_code (code : w.place container token = .code) :
    ∃ name member, w.Names container token name member ∧
      ((∃ getter setter, member.content = .property getter setter) ∨
        ∃ call, member.content = .method call) := by
  cases token with
  | element index =>
    rcases collection : container.collection? with _ | a <;> simp [World.place, collection] at code
  | member name =>
    rcases found : w.resolveOn container name with fault | ⟨owner, member⟩
    · simp [World.place, found] at code
    refine ⟨name, member, ⟨rfl, owner, found⟩, ?_⟩
    rcases content : member.content with ⟨slot, kind⟩ | ⟨getter, setter⟩ | ⟨call⟩
    · rw [World.place_of_field found content] at code
      exact absurd code (World.fieldPlace_ne_code container owner member.isStatic slot)
    · exact .inl ⟨getter, setter, rfl⟩
    · exact .inr ⟨call, rfl⟩

end

/-! ## 2. Reading -/

/-- Why reading the token on the container fails with the fault. -/
inductive World.Unreadable (w : World Code Host) (options : AccessOptions) (container : Value)
    (token : Token) : AccessFault → Prop
  | null : container.isNull = true → Unreadable w options container token .nullIntermediate
  | unknown {name : String} {fault : AccessFault} : token = .member name →
      w.resolveOn container name = .error fault → Unreadable w options container token fault
  | notCollection {index : UInt64} : token = .element index → container.collection? = none →
      Unreadable w options container token (.notCollection container.tag)
  | busy {l : Location} : w.place container token = .cell l → w.borrow l.storage = .exclusive →
      Unreadable w options container token .reentrant
  | outOfRange {a : Address} {index : UInt64} : token = .element index →
      container.collection? = some a → (w.cells (.entity a)).size ≤ index.toNat →
      Unreadable w options container token
        (.indexOutOfRange index.toNat (w.cells (.entity a)).size)
  | outOfBounds {name : String} {member : Member Code} {slot : Nat} {kind : ValueKind}
      {len : Nat} : w.Names container token name member → member.content = .field slot kind →
      len ≤ slot → Unreadable w options container token (.storage (.slotOutOfBounds slot len))
  | denied {name : String} {member : Member Code} {call : Code} :
      options.methodCalls = .deny → w.Names container token name member →
      member.content = .method call → Unreadable w options container token (.methodCallDenied name)

theorem busy_of_unreadable {w : World Code Host} {options : AccessOptions} {container : Value}
    {token : Token} (cause : w.Unreadable options container token .reentrant) :
    ∃ l, w.place container token = .cell l ∧ w.borrow l.storage = .exclusive := by
  generalize busy : AccessFault.reentrant = fault at cause
  cases cause with
  | unknown _ unresolved =>
    rw [resolveOn_error unresolved] at busy
    cases busy
  | busy here used => exact ⟨_, here, used⟩
  | _ => cases busy

theorem slotOf_error {cells : Array Value} {slot : Nat} {e : StorageError}
    (h : slotOf cells slot = .error e) :
    e = .slotOutOfBounds slot cells.size ∧ cells.size ≤ slot := by
  unfold slotOf at h
  rcases here : cells[slot]? with _ | v
  · rw [here] at h
    cases h
    exact ⟨rfl, Array.getElem?_eq_none_iff.1 here⟩
  · rw [here] at h
    cases h

theorem elementOf_error {cells : Array Value} {index : Nat} {e : ElementError}
    (h : elementOf cells index = .error e) :
    e = .outOfRange index cells.size ∧ cells.size ≤ index := by
  unfold elementOf at h
  rcases here : cells[index]? with _ | v
  · rw [here] at h
    cases h
    exact ⟨rfl, Array.getElem?_eq_none_iff.1 here⟩
  · rw [here] at h
    cases h

theorem eq_error_of_mapError {α ε ε' : Type} {f : ε → ε'} {result : Except ε α} {e' : ε'}
    (h : result.mapError f = .error e') : ∃ e, result = .error e ∧ e' = f e := by
  rcases result with e | a
  · cases h
    exact ⟨e, rfl, rfl⟩
  · cases h

namespace World

variable {w : World Code Host} {options : AccessOptions} {container : Value} {token : Token}
  {fault : AccessFault}

/-- The fault of reading a slot: the storage is being written, or it has no such slot. -/
theorem slotAt_error {id : StorageId} {slot : Nat} (h : w.slotAt id slot = .error fault) :
    (w.borrow id = .exclusive ∧ fault = .reentrant) ∨
      ∃ len, len ≤ slot ∧ fault = .storage (.slotOutOfBounds slot len) := by
  unfold slotAt at h
  split at h
  · next busy =>
    cases h
    exact .inl ⟨busy, rfl⟩
  · obtain ⟨e, failed, rfl⟩ := eq_error_of_mapError h
    obtain ⟨rfl, outside⟩ := slotOf_error failed
    exact .inr ⟨_, outside, rfl⟩

theorem unreadable_of_field {name : String} {owner : TypeId} {member : Member Code} {slot : Nat}
    {kind : ValueKind} (found : w.resolveOn container name = .ok { owner, member })
    (content : member.content = .field slot kind)
    (h : w.fieldAt container owner member.isStatic slot = .error fault) :
    w.Unreadable options container (.member name) fault := by
  have place := place_of_field found content
  have named : w.Names container (.member name) name member := ⟨rfl, owner, found⟩
  unfold fieldAt at h
  unfold fieldPlace at place
  split at h
  · next static =>
    rw [if_pos static] at place
    rcases slotAt_error h with ⟨busy, rfl⟩ | ⟨len, outside, rfl⟩
    · exact .busy place busy
    · exact .outOfBounds named content outside
  · next notStatic =>
    rw [if_neg notStatic] at place
    cases container with
    | object a =>
      rcases slotAt_error h with ⟨busy, rfl⟩ | ⟨len, outside, rfl⟩
      · exact .busy place busy
      · exact .outOfBounds named content outside
    | struct t fields =>
      obtain ⟨e, failed, rfl⟩ := eq_error_of_mapError h
      obtain ⟨rfl, outside⟩ := slotOf_error failed
      exact .outOfBounds named content outside
    | _ =>
      cases h
      exact .outOfBounds named content (Nat.zero_le slot)

/-- Where no code runs, reading fails for one of the causes. -/
theorem unreadable_of_readAt (plain : w.place container token ≠ .code)
    (h : w.readAt container token = .error fault) :
    w.Unreadable options container token fault := by
  unfold readAt at h
  split at h
  · next null =>
    cases h
    exact .null null
  cases token with
  | element index =>
    rcases collection : container.collection? with _ | a
    · rw [collection] at h
      cases h
      exact .notCollection rfl collection
    · simp only [collection, indexAt] at h
      split at h
      · next busy =>
        cases h
        exact .busy (l := ⟨.entity a, index.toNat⟩) (by simp [place, collection]) busy
      · obtain ⟨e, failed, rfl⟩ := eq_error_of_mapError h
        obtain ⟨rfl, outside⟩ := elementOf_error failed
        exact .outOfRange rfl collection outside
  | member name =>
    rcases found : w.resolveOn container name with fault' | ⟨owner, member⟩
    · simp only [found] at h
      cases h
      exact .unknown rfl found
    rcases content : member.content with ⟨slot, kind⟩ | _ | _
    · simp only [found, content] at h
      exact unreadable_of_field found content h
    · simp [place, found, content] at plain
    · simp [place, found, content] at plain

end World

/-- A token that cannot be read has one of the causes; the attempt has changed nothing. -/
theorem readStep_error {beh : Behaviour Code Host} {options : AccessOptions} {container : Value}
    {token : Token} {fault : AccessFault} {w w' : World Code Host}
    (failed : (readStep beh options container token).outcome w = (.error fault, w')) :
    w' = w ∧ w.Unreadable options container token fault := by
  by_cases code : w.place container token = .code
  · obtain ⟨name, member, named, ⟨getter, setter, content⟩ | ⟨call, content⟩⟩ :=
      names_of_place_code code
    · rw [outcome_readStep_property beh options named content] at failed
      cases failed
    · rw [outcome_readStep_method beh options named content] at failed
      rcases calls : options.methodCalls with _ | _
      · rw [calls] at failed
        cases failed
      · rw [calls] at failed
        cases failed
        exact ⟨rfl, .denied calls named content⟩
  · rw [outcome_readStep beh options code] at failed
    obtain ⟨read, rfl⟩ := Prod.mk.inj failed
    exact ⟨rfl, World.unreadable_of_readAt code read⟩

/-! ## 3. Writing -/

/-- Why writing the value to the token on the container is refused with the fault. -/
inductive World.Refuses (w : World Code Host) (container : Value) (token : Token) (v : Value) :
    AccessFault → Prop
  | null : container.isNull = true → Refuses w container token v .nullIntermediate
  | unknown {name : String} {fault : AccessFault} : token = .member name →
      w.resolveOn container name = .error fault → Refuses w container token v fault
  | notWritable {name : String} {member : Member Code} (what : Unwritable) :
      w.Names container token name member → member.isWritable = false →
      Refuses w container token v (.notWritable what name)
  | immutable {name : String} {member : Member Code} : w.Names container token name member →
      member.isStatic = false → (∀ a, container ≠ .object a) →
      Refuses w container token v (.immutableContainer (w.typeName container))
  | unsuited {name : String} {member : Member Code} {slot : Nat} {kind : ValueKind} :
      w.Names container token name member → member.content = .field slot kind →
      w.accepts kind v = false →
      Refuses w container token v (.typeMismatch (kind.text w.types.name) v.tag)
  | notCollection {index : UInt64} : token = .element index → container.collection? = none →
      Refuses w container token v (.notCollection container.tag)
  | busy {l : Location} : w.place container token = .cell l → w.borrow l.storage ≠ .free →
      Refuses w container token v .reentrant
  | outOfRange {a : Address} {index : UInt64} : token = .element index →
      container.collection? = some a → (w.cells (.entity a)).size ≤ index.toNat →
      Refuses w container token v
        (.indexOutOfRange index.toNat (w.cells (.entity a)).size)
  | outOfBounds {name : String} {member : Member Code} {slot : Nat} {kind : ValueKind}
      {len : Nat} : w.Names container token name member → member.content = .field slot kind →
      len ≤ slot → Refuses w container token v (.storage (.slotOutOfBounds slot len))

theorem busy_of_refuses {w : World Code Host} {container : Value} {token : Token} {v : Value}
    (cause : w.Refuses container token v .reentrant) :
    ∃ l, w.place container token = .cell l ∧ w.borrow l.storage ≠ .free := by
  generalize busy : AccessFault.reentrant = fault at cause
  cases cause with
  | unknown _ unresolved =>
    rw [resolveOn_error unresolved] at busy
    cases busy
  | busy here used => exact ⟨_, here, used⟩
  | _ => cases busy

namespace DeferredWrite

/-- A write is the same under two behaviours if the setter that its token names, if it names one,
runs the same. -/
theorem run_apply_congr {beh beh' : Behaviour Code Host} {w : World Code Host} {container : Value}
    {token : Token} {v : Value}
    (setter : ∀ name member getter setter, w.Names container token name member →
      member.content = .property getter (some setter) →
      (beh'.setter setter (member.receiver? container) v).run w =
        (beh.setter setter (member.receiver? container) v).run w) :
    (apply beh' ⟨container, token⟩ v).run w = (apply beh ⟨container, token⟩ v).run w := by
  unfold apply
  by_cases null : container.isNull = true
  · rw [if_pos null, if_pos null]
  rw [if_neg null, if_neg null]
  cases token with
  | element index => rfl
  | member name =>
    simp only [writeMember, run_bind, run_getWorld]
    rcases found : w.resolveOn container name with fault | ⟨owner, member⟩
    · rfl
    rcases content : member.content with ⟨slot, kind⟩ | ⟨getter, _ | set⟩ | ⟨call⟩
    · simp only [content]
    · simp only [content]
    · have same := setter name member getter set ⟨rfl, owner, found⟩ content
      simp only [content]
      split
      · rfl
      · simp only [run_bind, same]
    · simp only [content]

variable {w : World Code Host} {container v : Value} {fault : AccessFault}

theorem not_object_of_unobservable {member : Member Code}
    (hidden : isObservable member container = false) :
    member.isStatic = false ∧ ∀ a, container ≠ .object a := by
  rw [isObservable, Bool.or_eq_false_iff] at hidden
  refine ⟨hidden.1, ?_⟩
  rintro a rfl
  cases hidden.2

theorem refuses_of_writeSlot {token : Token} {name : String} {member : Member Code} {id : StorageId}
    {slot : Nat} {kind : ValueKind} (named : w.Names container token name member)
    (content : member.content = .field slot kind)
    (here : w.place container token = .cell ⟨id, slot⟩)
    (h : ((writeSlot id slot v).outcome w).1.mapError .ofStorage = .error fault) :
    w.Refuses container token v fault := by
  rw [outcome_writeSlot] at h
  split at h
  · split at h
    · cases h
    · next outside =>
      cases h
      exact .outOfBounds named content (Nat.le_of_not_lt outside)
  · next used =>
    cases h
    exact .busy here used

theorem refuses_of_writeElement {index : UInt64}
    (h : ((writeElement container index v).outcome w).1 = .error fault) :
    w.Refuses container (.element index) v fault := by
  unfold writeElement at h
  rcases collection : container.collection? with _ | a
  · rw [collection] at h
    cases h
    exact .notCollection rfl collection
  · rw [collection] at h
    have written : ((setElementAt a index v).outcome w).1.mapError .ofElement = .error fault := h
    rw [outcome_setElementAt] at written
    split at written
    · split at written
      · cases written
      · next outside =>
        cases written
        exact .outOfRange rfl collection (Nat.le_of_not_lt outside)
    · next used =>
      cases written
      exact .busy (l := ⟨.entity a, index.toNat⟩) (by simp [World.place, collection]) used

/-- A write to a field is refused for one of the causes. -/
theorem refuses_of_writeField {name : String} {owner : TypeId} {member : Member Code} {slot : Nat}
    {kind : ValueKind} (beh : Behaviour Code Host)
    (found : w.resolveOn container name = .ok { owner, member })
    (content : member.content = .field slot kind)
    (h : ((writeMember beh container name v).outcome w).1 = .error fault) :
    w.Refuses container (.member name) v fault := by
  have place := World.place_of_field found content
  have named : w.Names container (.member name) name member := ⟨rfl, owner, found⟩
  unfold World.fieldPlace at place
  rw [outcome_writeMember_field beh v found content] at h
  split at h
  · next hidden =>
    cases h
    obtain ⟨notStatic, noObject⟩ := not_object_of_unobservable hidden
    exact .immutable named notStatic noObject
  split at h
  · next unsuited =>
    cases h
    exact .unsuited named content unsuited
  split at h
  · next static =>
    rw [if_pos static] at place
    exact refuses_of_writeSlot named content place h
  · next notStatic =>
    rw [if_neg notStatic] at place
    cases container with
    | object a => exact refuses_of_writeSlot named content place h
    | _ =>
      cases h
      exact .immutable named (Bool.eq_false_iff.2 notStatic) nofun

/-- A token that cannot be written has one of the causes, and the attempt has changed nothing,
unless a setter has failed. -/
theorem apply_error {beh : Behaviour Code Host} {token : Token} {w' : World Code Host}
    (failed : (apply beh ⟨container, token⟩ v).outcome w = (.error fault, w')) :
    (w' = w ∧ w.Refuses container token v fault) ∨ ∃ e, fault = .setterFailed e := by
  by_cases refusal : fault.IsRefusal
  case neg => exact .inr (by simpa [AccessFault.IsRefusal] using refusal)
  refine .inl ⟨(ends_of_refusal failed refusal).1, ?_⟩
  have result := congrArg Prod.fst failed
  by_cases null : container.isNull = true
  · rw [apply, null] at result
    cases result
    exact .null null
  rw [Bool.not_eq_true] at null
  cases token with
  | element index =>
    rw [apply, null] at result
    exact refuses_of_writeElement result
  | member name =>
    rw [apply_member beh null] at result
    rcases found : w.resolveOn container name with fault' | ⟨owner, member⟩
    · rw [writeMember, outcome_bind, outcome_getWorld, found] at result
      cases result
      exact .unknown rfl found
    have named : w.Names container (.member name) name member := ⟨rfl, owner, found⟩
    rcases content : member.content with ⟨slot, kind⟩ | ⟨getter, setter⟩ | ⟨call⟩
    · exact refuses_of_writeField beh found content result
    · rcases setter with _ | setter
      · rw [writeMember, outcome_bind, outcome_getWorld] at result
        simp only [found, content] at result
        cases result
        exact .notWritable .property named (by simp [Member.isWritable, content])
      rw [outcome_writeMember_property beh v found content] at result
      split at result
      · obtain ⟨e, -, rfl⟩ := eq_error_of_mapError result
        exact absurd rfl (refusal e)
      · next hidden =>
        cases result
        obtain ⟨notStatic, noObject⟩ := not_object_of_unobservable (Bool.eq_false_iff.2 hidden)
        exact .immutable named notStatic noObject
    · rw [writeMember, outcome_bind, outcome_getWorld] at result
      simp only [found, content] at result
      cases result
      exact .notWritable .method named (by simp [Member.isWritable, content])

end DeferredWrite

/-! ## 4. Storages in use -/

namespace World

variable {w : World Code Host} {container : Value} {token : Token} {l : Location}

theorem fieldPlace_eq_cell {owner : TypeId} {isStatic : Bool} {slot : Nat}
    (here : fieldPlace container owner isStatic slot = .cell l) :
    (isStatic = true ∧ l = ⟨.statics owner, slot⟩) ∨
      isStatic = false ∧ ∃ a, container = .object a ∧ l = ⟨.entity a, slot⟩ := by
  unfold fieldPlace at here
  cases isStatic with
  | true =>
    cases here
    exact .inl ⟨rfl, rfl⟩
  | false =>
    cases container with
    | object a =>
      cases here
      exact .inr ⟨rfl, a, rfl, rfl⟩
    | _ => cases here

/-- A token that stands for a location is the index of an element or the name of a field. -/
theorem place_eq_cell (here : w.place container token = .cell l) :
    (∃ index a, token = .element index ∧ container.collection? = some a ∧
      l = ⟨.entity a, index.toNat⟩) ∨
    ∃ name owner member slot kind, token = .member name ∧
      w.resolveOn container name = .ok { owner, member } ∧ member.content = .field slot kind ∧
      fieldPlace container owner member.isStatic slot = .cell l := by
  cases token with
  | element index =>
    rcases collection : container.collection? with _ | a
    · simp [place, collection] at here
    · exact .inl ⟨index, a, rfl, rfl, by simpa [place, collection] using here.symm⟩
  | member name =>
    rcases found : w.resolveOn container name with fault | ⟨owner, member⟩
    · simp [place, found] at here
    rcases content : member.content with ⟨slot, kind⟩ | _ | _
    · rw [place_of_field found content] at here
      exact .inr ⟨name, owner, member, slot, kind, rfl, found, content, here⟩
    · simp [place, found, content] at here
    · simp [place, found, content] at here

theorem isNull_of_place (here : w.place container token = .cell l) : container.isNull = false := by
  rcases place_eq_cell here with ⟨_, _, -, collection, -⟩ | ⟨_, _, _, _, _, -, found, -, -⟩
  · exact isNull_of_collection? collection
  · exact isNull_of_resolveOn found

/-- A location of a storage that is being written is not read. -/
theorem readAt_of_used (here : w.place container token = .cell l)
    (used : w.borrow l.storage = .exclusive) : w.readAt container token = .error .reentrant := by
  rcases place_eq_cell here with ⟨index, a, rfl, collection, rfl⟩ |
    ⟨name, owner, member, slot, kind, rfl, found, content, place⟩
  · rw [readAt_of_collection collection, indexAt, if_pos used]
  · rw [readAt_of_field found content]
    rcases fieldPlace_eq_cell place with ⟨static, rfl⟩ | ⟨notStatic, a, rfl, rfl⟩
    · rw [static]
      exact if_pos used
    · rw [notStatic]
      exact if_pos used

end World

theorem outcome_readStep_of_used {w : World Code Host} {container : Value} {token : Token}
    {l : Location} (beh : Behaviour Code Host) (options : AccessOptions)
    (here : w.place container token = .cell l) (used : w.borrow l.storage = .exclusive) :
    (readStep beh options container token).outcome w = (.error .reentrant, w) := by
  have plain : w.place container token ≠ .code := by
    rw [here]
    exact nofun
  rw [outcome_readStep beh options plain, World.readAt_of_used here used]

/-- A location of a storage that is in use is not written. If it is a field, the value may have been
refused before the storage is asked for. -/
theorem DeferredWrite.outcome_apply_of_used {w : World Code Host} {container : Value}
    {token : Token} {l : Location} (beh : Behaviour Code Host) (v : Value)
    (here : w.place container token = .cell l) (used : w.borrow l.storage ≠ .free) :
    ∃ fault, (apply beh ⟨container, token⟩ v).outcome w = (.error fault, w) ∧
      (fault = .reentrant ∨ ∃ expected, fault = .typeMismatch expected v.tag) := by
  have notNull := World.isNull_of_place here
  rcases World.place_eq_cell here with ⟨index, a, rfl, collection, rfl⟩ |
    ⟨name, owner, member, slot, kind, rfl, found, content, place⟩
  · refine ⟨.reentrant, ?_, .inl rfl⟩
    rw [outcome_apply_element beh collection, outcome_setElementAt, if_neg used]
    rfl
  · rw [apply_member beh notNull, outcome_writeMember_field beh v found content]
    have observable : isObservable member container ≠ false := by
      rcases World.fieldPlace_eq_cell place with ⟨static, -⟩ | ⟨-, a, rfl, -⟩
      · simp [isObservable, static]
      · simp [isObservable, Value.isByValue]
    rw [if_neg observable]
    split
    · exact ⟨_, rfl, .inr ⟨_, rfl⟩⟩
    · refine ⟨.reentrant, ?_, .inl rfl⟩
      rcases World.fieldPlace_eq_cell place with ⟨static, rfl⟩ | ⟨notStatic, a, rfl, rfl⟩
      · rw [if_pos static, outcome_writeSlot, if_neg used]
        rfl
      · rw [notStatic, if_neg Bool.false_ne_true, writeInstanceSlot, outcome_bind,
          outcome_writeSlot, if_neg used]
        rfl

end ObjectGraph
