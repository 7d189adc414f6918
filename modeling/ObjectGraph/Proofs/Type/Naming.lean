import ObjectGraph.Proofs.Type.Chain

/-!
# Members and fields of one name

A name can be looked up among all members, among the fields of instances alone, and as the key of
a field in an export. The three differ where members of several sorts share a name: looking up
fields passes over members of other sorts, so it can find a field that such a member hides. Where
the first member of a name is a field of instances, all three mean that field.

1. `Member.instanceField?_eq_some`, `Layered.eq_of_slot`: one declaration for each slot;
2. `resolveMember_eq_some`, `instanceField?_eq_some`: what is found first;
3. `mem_instanceFieldKeys`, `KeyedByName`: the keys of the fields of one name;
4. `instanceField?_of_resolveMember`, `resolveMember_of_instanceField?`: how the lookups compare.
-/

namespace ObjectGraph

variable {Code : Type}

/-! ## 1. One declaration for each slot -/

theorem Member.instanceField?_eq_some {member : Member Code} {slot : Nat} {kind : ValueKind} :
    member.instanceField? = some (slot, kind) ↔
      member.isStatic = false ∧ member.content = .field slot kind := by
  obtain ⟨name, visibility, isStatic, content⟩ := member
  cases isStatic <;> cases content <;> simp [instanceField?]

/-- What is not a field of instances is a static field, a property or a method. -/
theorem Member.sort_of_instanceField?_eq_none {member : Member Code}
    (other : member.instanceField? = none) :
    member.staticField?.isSome ∨ member.isProperty ∨ member.isMethod := by
  obtain ⟨name, visibility, isStatic, content⟩ := member
  cases isStatic <;> cases content <;>
    simp_all [instanceField?, staticField?, isProperty, isMethod]

namespace TypeTable

variable {types : TypeTable Code} {t : TypeId}

/-- No two declarations of a chain have the same slot. -/
theorem Layered.eq_of_slot (layered : types.Layered) {d e : Declaration Code}
    (here : d ∈ types.declarations t) (there : e ∈ types.declarations t) {slot : Nat}
    {kind kind' : ValueKind} (field : d.member.instanceField? = some (slot, kind))
    (field' : e.member.instanceField? = some (slot, kind')) : d = e := by
  obtain ⟨derived, declared⟩ := mem_declarations.1 here
  obtain ⟨derived', declared'⟩ := mem_declarations.1 there
  have first : types.Declares t slot d.owner d.index kind := ⟨derived, d.member, declared, field⟩
  have second : types.Declares t slot e.owner e.index kind' :=
    ⟨derived', e.member, declared', field'⟩
  obtain ⟨owner, index⟩ :=
    declares_unique (layered.slots t (lt_of_mem_declarations here)) first second
  obtain ⟨dOwner, dIndex, dMember⟩ := d
  obtain ⟨eOwner, eIndex, eMember⟩ := e
  cases owner
  cases index
  cases declared.symm.trans declared'
  rfl

/-! ## 2. What is found first -/

/-- The member that a name stands for is the first one of the name. -/
theorem resolveMember_eq_some (built : types.Built) {name : String}
    {found : ResolvedMember Code} :
    types.resolveMember t name = some found ↔
      ∃ front d back, types.declarations t = front ++ d :: back ∧ d.member.name = name ∧
        (∀ e ∈ front, e.member.name ≠ name) ∧ found = { owner := d.owner, member := d.member } := by
  rw [resolveMember_eq built, Option.map_eq_some_iff]
  simp only [List.find?_eq_some_iff_append, beq_iff_eq, Bool.not_eq_true', beq_eq_false_iff_ne]
  constructor
  · rintro ⟨d, ⟨named, front, back, whole, others⟩, rfl⟩
    exact ⟨front, d, back, whole, named, others, rfl⟩
  · rintro ⟨front, d, back, whole, named, others, rfl⟩
    exact ⟨d, ⟨named, front, back, whole, others⟩, rfl⟩

/-- The field that a name stands for is the first field of the name. -/
theorem instanceField?_eq_some {name : String} {field : Nat × ValueKind} :
    types.instanceField? t name = some field ↔
      ∃ front d back, types.declarations t = front ++ d :: back ∧
        fieldNamed name d = some field ∧ ∀ e ∈ front, fieldNamed name e = none := by
  rw [instanceField?_eq, List.findSome?_eq_some_iff]

/-! ## 3. Keys -/

/-- The keys of a slot are those of the fields of instances in it. -/
theorem mem_instanceFieldKeys {key : String} {slot : Nat} :
    (key, slot) ∈ types.instanceFieldKeys t ↔ ∃ d ∈ types.declarations t, ∃ kind,
      d.member.instanceField? = some (slot, kind) ∧
        key = types.fieldKey t d.owner d.member.name slot := by
  simp only [instanceFieldKeys, List.mem_flatMap, List.mem_reverse, List.mem_map,
    TypeInfo.ownFields, List.mem_filterMap, Option.map_eq_some_iff]
  constructor
  · rintro ⟨owner, derived, _, ⟨member, declared, ⟨slot', kind⟩, field, rfl⟩, same⟩
    cases same
    obtain ⟨index, here⟩ := List.mem_iff_getElem?.1 declared
    exact ⟨⟨owner, index, member⟩, mem_declarations.2 ⟨derived, here⟩, kind, field, rfl⟩
  · rintro ⟨d, here, kind, field, rfl⟩
    obtain ⟨derived, declared⟩ := mem_declarations.1 here
    exact ⟨d.owner, derived, (d.member.name, slot),
      ⟨d.member, List.mem_of_getElem? declared, (slot, kind), field, rfl⟩, rfl⟩

/-- The slot of a declaration has one key. -/
theorem Layered.mem_instanceFieldKeys_iff (layered : types.Layered) {d : Declaration Code}
    (here : d ∈ types.declarations t) {slot : Nat} {kind : ValueKind}
    (field : d.member.instanceField? = some (slot, kind)) (key : String) :
    (key, slot) ∈ types.instanceFieldKeys t ↔
      key = types.fieldKey t d.owner d.member.name slot := by
  rw [mem_instanceFieldKeys]
  constructor
  · rintro ⟨e, there, kind', field', rfl⟩
    rw [layered.eq_of_slot there here field' field]
  · intro same
    exact ⟨d, here, kind, field, same⟩

/-- The fields of instances called `name`, seen from outside: the one in `slot` has the plain name
as its key, and all others have it behind the name of the type that declares them. -/
structure KeyedByName (types : TypeTable Code) (t : TypeId) (name : String)
    (found : ResolvedMember Code) (slot : Nat) : Prop where
  plain : ∀ key, (key, slot) ∈ types.instanceFieldKeys t ↔ key = name
  others : ∀ d ∈ types.declarations t, ∀ slot' kind, fieldNamed name d = some (slot', kind) →
    (slot' = slot ∧ d.owner = found.owner ∧ d.member = found.member) ∨
    slot' ≠ slot ∧ ∀ key, (key, slot') ∈ types.instanceFieldKeys t ↔
      key = types.name d.owner ++ "::" ++ name

theorem fieldKey_eq {owner : TypeId} {name : String} {visible slot : Nat} {kind : ValueKind}
    (found : types.instanceField? t name = some (visible, kind)) :
    types.fieldKey t owner name slot =
      if visible = slot then name else types.name owner ++ "::" ++ name := by
  simp [fieldKey, found]

theorem Layered.keyedByName (layered : types.Layered) {d : Declaration Code}
    (here : d ∈ types.declarations t) {name : String} {slot : Nat} {kind : ValueKind}
    (field : fieldNamed name d = some (slot, kind))
    (found : types.instanceField? t name = some (slot, kind)) :
    types.KeyedByName t name ⟨d.owner, d.member⟩ slot := by
  obtain ⟨rfl, content⟩ := fieldNamed_eq_some.1 field
  refine ⟨fun key => ?_, fun e there slot' kind' field' => ?_⟩
  · rw [layered.mem_instanceFieldKeys_iff here content, fieldKey_eq found, if_pos rfl]
  · obtain ⟨named, content'⟩ := fieldNamed_eq_some.1 field'
    by_cases same : slot' = slot
    · subst same
      obtain rfl := layered.eq_of_slot there here content' content
      exact .inl ⟨rfl, rfl, rfl⟩
    · refine .inr ⟨same, fun key => ?_⟩
      rw [layered.mem_instanceFieldKeys_iff there content', named, fieldKey_eq found,
        if_neg (Ne.symm same)]

/-! ## 4. The lookups compared -/

/-- If the first member of a name is a field of instances, then it is also the first field of the
name. -/
theorem instanceField?_of_resolveMember (built : types.Built) {name : String} {owner : TypeId}
    {member : Member Code} {slot : Nat} {kind : ValueKind}
    (resolved : types.resolveMember t name = some { owner, member })
    (field : member.instanceField? = some (slot, kind)) :
    types.instanceField? t name = some (slot, kind) ∧
      types.KeyedByName t name { owner, member } slot := by
  obtain ⟨front, d, back, whole, named, others, same⟩ := (resolveMember_eq_some built).1 resolved
  cases same
  have here : d ∈ types.declarations t := whole ▸ List.mem_append_right _ List.mem_cons_self
  have isField : fieldNamed name d = some (slot, kind) := fieldNamed_eq_some.2 ⟨named, field⟩
  have found : types.instanceField? t name = some (slot, kind) :=
    instanceField?_eq_some.2
      ⟨front, d, back, whole, isField, fun e before => if_neg (others e before)⟩
  exact ⟨found, built.layered.keyedByName here isField found⟩

/-- If there is a field of instances of a name, then the first member of the name is that field, or
it is no field of instances and is searched before it. -/
theorem resolveMember_of_instanceField? (built : types.Built) {name : String}
    {field : Nat × ValueKind} (found : types.instanceField? t name = some field) :
    ∃ d ∈ types.declarations t, ∃ e ∈ types.declarations t,
      types.resolveMember t name = some { owner := d.owner, member := d.member } ∧
      d.member.name = name ∧ fieldNamed name e = some field ∧
      (d = e ∨ d.member.instanceField? = none ∧ d.Before types e) := by
  obtain ⟨front, e, back, whole, isField, others⟩ := instanceField?_eq_some.1 found
  have there : e ∈ types.declarations t := whole ▸ List.mem_append_right _ List.mem_cons_self
  have named := (fieldNamed_eq_some.1 isField).1
  rcases before : front.find? (·.member.name == name) with _ | d
  · -- nothing before the field has its name
    refine ⟨e, there, e, there, ?_, named, isField, .inl rfl⟩
    rw [resolveMember_eq built, whole, List.find?_append, before]
    simp [named]
  · have inFront := List.mem_of_find?_eq_some before
    have named' : d.member.name = name := by simpa using List.find?_some before
    have ordered := built.layered.pairwise_declarations (lt_of_mem_declarations there)
    rw [whole, List.pairwise_append] at ordered
    refine ⟨d, whole ▸ List.mem_append_left _ inFront, e, there, ?_, named', isField,
      .inr ⟨?_, ordered.2.2 d inFront e List.mem_cons_self⟩⟩
    · rw [resolveMember_eq built, whole, List.find?_append, before]
      rfl
    · have noField := others d inFront
      rwa [fieldNamed, if_pos named'] at noField

end TypeTable

end ObjectGraph
