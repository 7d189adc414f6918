import ObjectGraph.Proofs.Access.Arrival
import ObjectGraph.Proofs.Access.DeferredWrite
import ObjectGraph.Proofs.Type.Naming

/-!
# Fields along paths and fields by name

A field can be used through the token of a path, and directly by its name on the object. Where the
first member of the name is a field of instances, both use the slot of that field: they read the
same value, refuse the same writes and leave the same world. Only the causes of failures differ, and
each cause of one side has its counterpart on the other.

1. `AccessFault.ofWrite`, `outcome_objectField?_of_field`, `outcome_setObjectField_of_field`: the
   direct calls;
2. `outcome_readStep_object`, `outcome_apply_object`, `SameField`: one token on an object;
3. `outcome_readStep_struct`: one token on a struct;
4. `direct_field_eq_path`: the two ways compared, for every name.
-/

namespace ObjectGraph

open ObjectGraph.Action PathAccess

variable {Code Host : Type}

/-! ## 1. The direct calls -/

/-- A failed write to a field by its name, seen from a path. -/
def AccessFault.ofWrite (typeName : TypeId → String) : WriteError → AccessFault
  | .missingField type name => .memberNotFound type name
  | .kindMismatch expected found => .typeMismatch (expected.text typeName) found
  | .storage e => .ofStorage e

section

variable {w : World Code Host} {a : Address} {t : TypeId} {name : String} {slot : Nat}
  {kind : ValueKind}

theorem outcome_objectField?_of_field (type : w.typeOf? (.object a) = some t)
    (found : w.types.instanceField? t name = some (slot, kind)) :
    (objectField? a name).outcome w =
      ((readSlot (.entity a) slot).outcome w).map (·.toOption) id := by
  rw [objectField?, outcome_bind, outcome_getWorld, type, Option.bind_some, found]
  rfl

theorem outcome_setObjectField_of_field (v : Value) (type : w.typeOf? (.object a) = some t)
    (found : w.types.instanceField? t name = some (slot, kind)) :
    (setObjectField a name v).outcome w =
      if w.accepts kind v then
        ((writeSlot (.entity a) slot v).outcome w).map (·.mapError .storage) id
      else (.error (.kindMismatch kind v.tag), w) := by
  rw [setObjectField, outcome_bind, outcome_getWorld, type]
  by_cases accepted : w.accepts kind v = true
  · simp only [fieldFor, found, accepted, if_true, outcome_bind]
    rcases (writeSlot (.entity a) slot v).outcome w with ⟨e | done, w'⟩ <;> rfl
  · simp [fieldFor, found, accepted]

/-! ## 2. One token on an object -/

theorem resolveOn_of_resolveMember {container : Value} {found : ResolvedMember Code}
    (type : w.typeOf? container = some t)
    (resolved : w.types.resolveMember t name = some found) :
    w.resolveOn container name = .ok found := by
  rw [World.resolveOn, type, Option.bind_some, resolved]

variable {owner : TypeId} {member : Member Code}

/-- A field is no code. -/
theorem place_ne_code_of_field {container : Value}
    (named : w.resolveOn container name = .ok { owner, member })
    (content : member.content = .field slot kind) :
    w.place container (.member name) ≠ .code := by
  rw [World.place_of_field named content]
  exact World.fieldPlace_ne_code container owner member.isStatic slot

/-- Reading a field of an object along a path is reading its slot. -/
theorem outcome_readStep_object (beh : Behaviour Code Host) (options : AccessOptions)
    (type : w.typeOf? (.object a) = some t)
    (resolved : w.types.resolveMember t name = some { owner, member })
    (field : member.instanceField? = some (slot, kind)) :
    (readStep beh options (.object a) (.member name)).outcome w =
      ((readSlot (.entity a) slot).outcome w).map (·.mapError .ofStorage) id := by
  obtain ⟨notStatic, content⟩ := Member.instanceField?_eq_some.1 field
  have named := resolveOn_of_resolveMember type resolved
  rw [outcome_readStep beh options (place_ne_code_of_field named content),
    World.readAt_of_field named content, notStatic]
  exact (outcome_readSlot_mapError (.entity a) slot w).symm

/-- Writing a field of an object along a path is writing it by its name. -/
theorem outcome_apply_object (beh : Behaviour Code Host) (v : Value)
    (type : w.typeOf? (.object a) = some t)
    (resolved : w.types.resolveMember t name = some { owner, member })
    (field : member.instanceField? = some (slot, kind))
    (found : w.types.instanceField? t name = some (slot, kind)) :
    (DeferredWrite.apply beh ⟨.object a, .member name⟩ v).outcome w =
      ((setObjectField a name v).outcome w).map (·.mapError (.ofWrite w.types.name)) id := by
  obtain ⟨notStatic, content⟩ := Member.instanceField?_eq_some.1 field
  have named := resolveOn_of_resolveMember type resolved
  have observable : DeferredWrite.isObservable member (.object a) = true := by
    simp [DeferredWrite.isObservable, Value.isByValue]
  rw [DeferredWrite.apply_member beh rfl, outcome_setObjectField_of_field v type found,
    DeferredWrite.outcome_writeMember_field beh v named content, observable,
    if_neg Bool.noConfusion, notStatic]
  rcases w.accepts kind v with _ | _
  · rfl
  · simp only [DeferredWrite.writeInstanceSlot, outcome_bind]
    rcases (writeSlot (.entity a) slot v).outcome w with ⟨e | done, w'⟩ <;> rfl

end

/-- On the object, the token `name`, the direct calls and the slot mean the same storage: as a step
and a deferred write, and as a path of this one token. Reading leaves the world alone. -/
structure SameField (w : World Code Host) (a : Address) (name : String) (slot : Nat) : Prop where
  kept : ((readSlot (.entity a) slot).outcome w).2 = w
  direct : (objectField? a name).outcome w =
    ((readSlot (.entity a) slot).outcome w).map (·.toOption) id
  step : ∀ beh options, (readStep beh options (.object a) (.member name)).outcome w =
    ((readSlot (.entity a) slot).outcome w).map (·.mapError .ofStorage) id
  write : ∀ beh v, (DeferredWrite.apply beh ⟨.object a, .member name⟩ v).outcome w =
    ((setObjectField a name v).outcome w).map (·.mapError (.ofWrite w.types.name)) id
  getValue : ∀ beh options path offset,
    (scanPath path).tokens = [⟨.member name, offset⟩] → (scanPath path).error = none →
    (getValue beh options (.object a) path).outcome w =
      ((readSlot (.entity a) slot).outcome w).map
        (·.mapError fun e => .atToken ⟨.member name, offset⟩ (.ofStorage e)) id
  set : ∀ beh options path offset v,
    (scanPath path).tokens = [⟨.member name, offset⟩] → (scanPath path).error = none →
    (set beh options (.object a) path v).outcome w =
      ((setObjectField a name v).outcome w).map
        (·.mapError fun e => .atToken ⟨.member name, offset⟩ (.ofWrite w.types.name e)) id

/-- A path of one token is a step. -/
theorem outcome_getValue_singleton (beh : Behaviour Code Host) (options : AccessOptions)
    (root : Value) {path : String} {token : OffsetToken} (tokens : (scanPath path).tokens = [token])
    (sound : (scanPath path).error = none) (w : World Code Host) :
    (getValue beh options root path).outcome w =
      ((readStep beh options root token.token).outcome w).map (·.mapError (.atToken token)) id := by
  rw [outcome_getValue, tokens, sound, outcome_walk_singleton]

/-- Setting along a path of one token is a deferred write. -/
theorem outcome_set_singleton (beh : Behaviour Code Host) (options : AccessOptions)
    (root v : Value) {path : String} {token : OffsetToken}
    (tokens : (scanPath path).tokens = [token]) (sound : (scanPath path).error = none)
    (w : World Code Host) :
    (set beh options root path v).outcome w =
      ((DeferredWrite.apply beh ⟨root, token.token⟩ v).outcome w).map
        (·.mapError (.atToken token)) id := by
  have alone : (scanPath path).tokens = [] ++ token :: [] := tokens
  rw [outcome_set_of_tokens beh options alone, sound]
  exact outcome_writeLast beh root token v w

theorem mapError_mapError {ε ε' ε'' α : Type} (f : ε → ε') (g : ε' → ε'') (r : Except ε α) :
    (r.mapError f).mapError g = r.mapError (g ∘ f) := by
  cases r <;> rfl

theorem sameField {w : World Code Host} {a : Address} {t owner : TypeId} {name : String}
    {slot : Nat} {kind : ValueKind} {member : Member Code} (type : w.typeOf? (.object a) = some t)
    (resolved : w.types.resolveMember t name = some { owner, member })
    (field : member.instanceField? = some (slot, kind))
    (found : w.types.instanceField? t name = some (slot, kind)) : SameField w a name slot := by
  have step := fun beh options => outcome_readStep_object beh options type resolved field
  have write := fun beh v => outcome_apply_object beh v type resolved field found
  refine ⟨by rw [outcome_readSlot], outcome_objectField?_of_field type found, step, write, ?_, ?_⟩
  · intro beh options path offset tokens sound
    rw [outcome_getValue_singleton beh options _ tokens sound, step, Prod.map_map]
    exact congrArg (Prod.map · _ _) (funext fun r => mapError_mapError ..)
  · intro beh options path offset v tokens sound
    rw [outcome_set_singleton beh options _ v tokens sound, write, Prod.map_map]
    exact congrArg (Prod.map · _ _) (funext fun r => mapError_mapError ..)

/-! ## 3. One token on a struct -/

/-- Reading a field of a struct along a path is looking it up by its name. -/
theorem outcome_readStep_struct (beh : Behaviour Code Host) (options : AccessOptions)
    {w : World Code Host} {t owner : TypeId} {fields : List Value} {name : String} {slot : Nat}
    {kind : ValueKind} {member : Member Code}
    (resolved : w.types.resolveMember t name = some { owner, member })
    (field : member.instanceField? = some (slot, kind))
    (found : w.types.instanceField? t name = some (slot, kind)) :
    (readStep beh options (.struct t fields) (.member name)).outcome w =
      (match structField? w.types t fields name with
        | some v => .ok v
        | none => .error (.storage (.slotOutOfBounds slot fields.length)), w) := by
  obtain ⟨notStatic, content⟩ := Member.instanceField?_eq_some.1 field
  have named : w.resolveOn (.struct t fields) name = .ok { owner, member } :=
    resolveOn_of_resolveMember rfl resolved
  rw [outcome_readStep beh options (place_ne_code_of_field named content),
    World.readAt_of_field named content, notStatic, structField?, found, Option.bind_some]
  rcases inside : fields[slot]? with _ | v
  · simp [World.fieldAt, slotOf, inside, Except.mapError, AccessFault.ofStorage]
  · simp [World.fieldAt, slotOf, inside, Except.mapError]

/-! ## 4. The two ways compared -/

/-- A name means the same field along a path and in a direct call, wherever it means a field in
both.

Let the first member of the name, of all sorts and along the chain of the type, be a field of
instances. Then it is the field that a direct call finds, with its slot and kind. In an export that
field has the plain name as its key, and all other fields of the name have it behind the names of
the types that declare them. On objects of the type, reading and writing by the token, by the path
of this one token and by the direct calls have the same results and leave the same worlds, whatever
is borrowed: a direct write that fails for its kind, or because the object is in use, has its
counterpart along the path. Reading from structs of the type agrees likewise.

Otherwise a direct call may still find a field. The first member of the name is then a static field,
a property or a method, and is declared in a class that derives from that of the field, or in the
same type before the field. -/
theorem direct_field_eq_path {w : World Code Host} (built : w.types.Built) (t : TypeId)
    (name : String) :
    (∀ owner member slot kind, w.types.resolveMember t name = some { owner, member } →
      member.instanceField? = some (slot, kind) →
      w.types.instanceField? t name = some (slot, kind) ∧
      w.types.KeyedByName t name { owner, member } slot ∧
      (∀ a, w.typeOf? (.object a) = some t → SameField w a name slot) ∧
      ∀ fields beh options, (readStep beh options (.struct t fields) (.member name)).outcome w =
        (match structField? w.types t fields name with
          | some v => .ok v
          | none => .error (.storage (.slotOutOfBounds slot fields.length)), w)) ∧
    (∀ slot kind, w.types.instanceField? t name = some (slot, kind) →
      ∃ first ∈ w.types.declarations t, ∃ field ∈ w.types.declarations t,
        w.types.resolveMember t name = some { owner := first.owner, member := first.member } ∧
        first.member.name = name ∧ field.member.name = name ∧
        field.member.instanceField? = some (slot, kind) ∧
        (first = field ∨
          (first.member.staticField?.isSome ∨ first.member.isProperty ∨ first.member.isMethod) ∧
          (field.owner ∈ (w.types.info first.owner).bases ∨
            first.owner = field.owner ∧ first.index < field.index))) := by
  refine ⟨fun owner member slot kind resolved field => ?_, fun slot kind found => ?_⟩
  · obtain ⟨found, keyed⟩ := TypeTable.instanceField?_of_resolveMember built resolved field
    exact ⟨found, keyed, fun a type => sameField type resolved field found,
      fun fields beh options => outcome_readStep_struct beh options resolved field found⟩
  · obtain ⟨first, here, field, there, resolved, named, isField, order⟩ :=
      TypeTable.resolveMember_of_instanceField? built found
    obtain ⟨named', content⟩ := TypeTable.fieldNamed_eq_some.1 isField
    refine ⟨first, here, field, there, resolved, named, named', content, ?_⟩
    rcases order with same | ⟨other, before⟩
    · exact .inl same
    · exact .inr ⟨Member.sort_of_instanceField?_eq_none other, before⟩

/-- A class with a field, a class that declares the field again, and a class that hides it behind a
property; and an instance of the second one. -/
def heroes : World Unit Unit :=
  let types : TypeTable Unit := TypeTable.add {}
    ((TypeBuilder.ofClauses .reference "Unit" [.field "hp" .int]).describe {})
  let types := types.add ((TypeBuilder.ofClauses .reference "Player"
    [.field "name" .str, .extends 0, .field "hp" .float]).describe types)
  let types := types.add ((TypeBuilder.ofClauses .reference "Ghost"
    [.property "hp" false () none, .extends 1]).describe types)
  { types
    statics := #[{}, {}, {}]
    entities := #[{ shape := .object 1, storage := { cells := #[.int 3, .null, .float .zero] } }]
    host := () }

theorem built_heroes : heroes.types.Built :=
  .add (.add (.add .empty .reference "Unit" (by simp) rfl)
    .reference "Player" (by simp; decide) rfl) .reference "Ghost" (by simp; decide) rfl

theorem direct_field_of_heroes :
    heroes.types.instanceField? 1 "hp" = some (2, .float) ∧
      heroes.types.KeyedByName 1 "hp"
        ⟨1, { name := "hp", visibility := .pub, isStatic := false, content := .field 2 .float }⟩ 2 ∧
      SameField heroes 0 "hp" 2 ∧
      ∃ first ∈ heroes.types.declarations 2, ∃ field ∈ heroes.types.declarations 2,
        heroes.types.resolveMember 2 "hp" = some { owner := first.owner, member := first.member } ∧
        field.member.instanceField? = some (2, .float) ∧ first ≠ field := by
  have resolved : heroes.types.resolveMember 1 "hp" = some
      ⟨1, { name := "hp", visibility := .pub, isStatic := false, content := .field 2 .float }⟩ :=
    rfl
  obtain ⟨found, keyed, same, -⟩ :=
    (direct_field_eq_path built_heroes 1 "hp").1 1 _ 2 .float resolved rfl
  obtain ⟨first, here, field, there, resolved', -, -, isField, -⟩ :=
    (direct_field_eq_path built_heroes 2 "hp").2 2 .float rfl
  refine ⟨found, keyed, same 0 rfl, first, here, field, there, resolved', isField, ?_⟩
  rintro rfl
  have property : heroes.types.resolveMember 2 "hp" = some
      ⟨2, { name := "hp", visibility := .pub, isStatic := false, content := .property () none }⟩ :=
    rfl
  obtain ⟨-, member⟩ := ResolvedMember.mk.inj (Option.some.inj (resolved'.symm.trans property))
  rw [member] at isField
  cases isField

end ObjectGraph
