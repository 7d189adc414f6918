import Mathlib.Data.List.Forall2
import Mathlib.Data.List.Nodup
import Mathlib.Data.List.Pairwise
import ObjectGraph.Type.Builder

/-!
# The layout of instances

The slots of an instance are those of the classes that its type derives from, the remotest class
first, followed by those that the type declares itself. Each slot belongs to one declaration, and
a field that is found by name, along any of the two ways of finding one, leads to the slot of its
own declaration.

1. `slot_of_mem`, `mem_of_slot`: numbered declarations;
2. `TypeTable.instanceSlots`, `TypeTable.LaidOut`: what holds of every table of built types, and
   `TypeTable.Layered`, which says nothing about defaults;
3. `mem_instanceSlots`, `mem_of_resolveMember`: finding a field by name;
4. `TypeTable.Declares`, `declares_unique`: the declaration that owns a slot;
5. `counted_ofClauses`, `layered_add`, `laidOut_add`: built types are laid out.
-/

namespace ObjectGraph

variable {Code : Type}

/-! ## 1. Numbered declarations -/

/-- The declarations are numbered from zero in their order. -/
def Numbered (decls : List (Nat × ValueKind)) : Prop :=
  decls.map (·.1) = List.range decls.length

theorem slot_of_mem {decls : List (Nat × ValueKind)} (numbered : Numbered decls) {slot : Nat}
    {kind : ValueKind} (h : (slot, kind) ∈ decls) : (decls.map (·.2))[slot]? = some kind := by
  obtain ⟨i, inside, here⟩ := List.getElem_of_mem h
  have number : (decls.map (·.1))[i]? = some i := by
    rw [numbered]
    exact List.getElem?_range inside
  obtain rfl : slot = i := by simpa [inside, here] using number
  simp [inside, here]

theorem mem_of_slot {decls : List (Nat × ValueKind)} (numbered : Numbered decls) {slot : Nat}
    {kind : ValueKind} (h : (decls.map (·.2))[slot]? = some kind) : (slot, kind) ∈ decls := by
  rw [List.getElem?_map, Option.map_eq_some_iff] at h
  obtain ⟨⟨slot', kind'⟩, here, rfl⟩ := h
  obtain ⟨inside, found⟩ := List.getElem?_eq_some_iff.1 here
  have number : (decls.map (·.1))[slot]? = some slot := by
    rw [numbered]
    exact List.getElem?_range inside
  obtain rfl : slot' = slot := by simpa [here] using number
  exact List.mem_of_getElem? here

theorem numbered_append {front back : List (Nat × ValueKind)} (first : Numbered front)
    (second : Numbered back) :
    Numbered (front ++ back.map fun d => (d.1 + front.length, d.2)) := by
  have moved : (back.map fun d => (d.1 + front.length, d.2)).map (·.1) =
      (back.map (·.1)).map (front.length + ·) := by
    simp [Function.comp_def, Nat.add_comm]
  rw [Numbered, List.map_append, moved, first, second, ← List.range_add]
  simp

theorem numbered_concat {decls : List (Nat × ValueKind)} (numbered : Numbered decls)
    (kind : ValueKind) : Numbered (decls ++ [(decls.length, kind)]) := by
  rw [Numbered, List.map_append, numbered]
  simp [List.range_succ]

/-! ## 2. Tables of laid out types -/

/-- The fields of instances that the type itself declares, by slot and kind. -/
def TypeInfo.ownSlots (info : TypeInfo Code) : List (Nat × ValueKind) :=
  info.members.filterMap Member.instanceField?

/-- The static fields that the type declares, by slot and kind. -/
def TypeInfo.staticSlots (info : TypeInfo Code) : List (Nat × ValueKind) :=
  info.members.filterMap Member.staticField?

namespace TypeTable

/-- The slots of an instance with their kinds, those of the remotest class first. -/
def instanceSlots (types : TypeTable Code) (t : TypeId) : List (Nat × ValueKind) :=
  (types.ancestors t).reverse.flatMap fun owner => (types.info owner).ownSlots

/-- The kinds of the slots of an instance. -/
def fieldKinds (types : TypeTable Code) (t : TypeId) : List ValueKind :=
  (types.instanceSlots t).map (·.2)

/-- The kinds of the static slots of a type. -/
def staticKinds (types : TypeTable Code) (t : TypeId) : List ValueKind :=
  (types.info t).staticSlots.map (·.2)

/-- The default of a kind, if it is a new instance, is the instance of a value type. -/
def HasDefault (types : TypeTable Code) (kind : ValueKind) : Prop :=
  ∀ t, kind = .struct t → types.isValueType t = true

/-- All types have been built on types declared before them, whatever the kinds of their fields and
the first values are. -/
structure Layered (types : TypeTable Code) : Prop where
  bases : ∀ t < types.size,
    (types.info t).bases = [] ∨ ∃ base < t, (types.info t).bases = types.ancestors base
  slots : ∀ t < types.size, Numbered (types.instanceSlots t)
  /-- Each slot has an initial value; a default is that of the kind of the slot. -/
  inits : ∀ t < types.size, List.Forall₂ (fun init kind => ∀ k, init = .default k → k = kind)
    (types.info t).inits (types.fieldKinds t)
  statics : ∀ t < types.size, Numbered (types.info t).staticSlots

/-- And fields that begin with an instance begin with that of an earlier value type. -/
structure LaidOut (types : TypeTable Code) : Prop extends Layered types where
  defaults : ∀ t < types.size, ∀ s, .default (.struct s) ∈ (types.info t).inits →
    s < t ∧ types.isValueType s = true

/-- `types'` has the types of `types`, and maybe more. -/
structure Extends (types types' : TypeTable Code) : Prop where
  size : types.size ≤ types'.size
  info : ∀ t < types.size, types'.info t = types.info t

theorem Extends.refl (types : TypeTable Code) : types.Extends types :=
  ⟨Nat.le_refl _, fun _ _ => rfl⟩

theorem Extends.trans {types types' types'' : TypeTable Code} (h : types.Extends types')
    (h' : types'.Extends types'') : types.Extends types'' :=
  ⟨Nat.le_trans h.size h'.size,
    fun t small => (h'.info t (Nat.lt_of_lt_of_le small h.size)).trans (h.info t small)⟩

theorem extends_add (types : TypeTable Code) (info : TypeInfo Code) :
    types.Extends (types.add info) := by
  refine ⟨by simp [size, add], fun t small => ?_⟩
  simp only [size] at small
  simp [TypeTable.info, add, Array.getElem?_push_lt, small]

theorem info_add (types : TypeTable Code) (info : TypeInfo Code) :
    (types.add info).info types.size = info := by
  simp [TypeTable.info, add, size]

/-- An identity that is not in use describes the blank class. -/
theorem info_of_undeclared {types : TypeTable Code} {t : TypeId} (undeclared : ¬ t < types.size) :
    types.info t = .blank := by
  rw [info, Array.getElem?_eq_none (Nat.le_of_not_lt undeclared)]
  rfl

theorem ancestors_eq {types types' : TypeTable Code} (grown : types.Extends types') {t : TypeId}
    (declared : t < types.size) : types'.ancestors t = types.ancestors t := by
  rw [ancestors, ancestors, grown.info t declared]

namespace Layered

variable {types types' : TypeTable Code} (layered : types.Layered)
include layered

/-- A type derives from types declared before it. -/
theorem ancestors_le {t owner : TypeId} (declared : t < types.size)
    (h : owner ∈ types.ancestors t) : owner ≤ t := by
  induction t using Nat.strongRecOn with
  | ind t ih =>
    rw [ancestors, List.mem_cons] at h
    rcases h with rfl | derived
    · exact Nat.le_refl _
    · rcases layered.bases t declared with none | ⟨base, earlier, chain⟩
      · simp [none] at derived
      · rw [chain] at derived
        have below := ih base earlier (Nat.lt_trans earlier declared) derived
        exact Nat.le_of_lt (Nat.lt_of_le_of_lt below earlier)

theorem instanceSlots_eq (grown : types.Extends types') {t : TypeId} (declared : t < types.size) :
    types'.instanceSlots t = types.instanceSlots t := by
  rw [instanceSlots, instanceSlots, ancestors_eq grown declared]
  refine List.flatMap_congr fun owner h => ?_
  have earlier := layered.ancestors_le declared (List.mem_reverse.1 h)
  rw [grown.info owner (Nat.lt_of_le_of_lt earlier declared)]

theorem fieldKinds_eq (grown : types.Extends types') {t : TypeId} (declared : t < types.size) :
    types'.fieldKinds t = types.fieldKinds t := by
  rw [fieldKinds, fieldKinds, layered.instanceSlots_eq grown declared]

/-- An instance has a slot for each field. -/
theorem length_instanceSlots {t : TypeId} (declared : t < types.size) :
    (types.instanceSlots t).length = (types.info t).fieldSlots := by
  have each := (layered.inits t declared).length_eq
  rw [fieldKinds, List.length_map] at each
  exact each.symm

/-- The slots of the fields of an instance exist. -/
theorem slot_lt {t : TypeId} (declared : t < types.size) {field : Nat × ValueKind}
    (h : field ∈ types.instanceSlots t) : field.1 < (types.info t).fieldSlots := by
  have found := slot_of_mem (layered.slots t declared) h
  obtain ⟨inside, -⟩ := List.getElem?_eq_some_iff.1 found
  rw [List.length_map, layered.length_instanceSlots declared] at inside
  exact inside

/-- The slots of static fields exist. -/
theorem staticSlot_lt {t : TypeId} (declared : t < types.size) {field : Nat × ValueKind}
    (h : field ∈ (types.info t).staticSlots) : field.1 < (types.info t).staticSlots.length := by
  obtain ⟨inside, -⟩ := List.getElem?_eq_some_iff.1 (slot_of_mem (layered.statics t declared) h)
  rwa [List.length_map] at inside

end Layered

theorem isValueType_lt {types : TypeTable Code} {t : TypeId} (h : types.isValueType t = true) :
    t < types.size := by
  refine Classical.byContradiction fun undeclared => ?_
  rw [isValueType, kind, info_of_undeclared undeclared] at h
  cases h

/-! ## 3. Fields by name -/

theorem mem_of_ownField? {info : TypeInfo Code} {name : String} {field : Nat × ValueKind}
    (h : info.ownField? name = some field) : field ∈ info.ownSlots := by
  obtain ⟨m, declared, found⟩ := List.exists_of_findSome?_eq_some h
  split at found
  · exact List.mem_filterMap.2 ⟨m, declared, found⟩
  · cases found

/-- A field of instances that is found by name, past members of other sorts, is one of the slots. -/
theorem mem_instanceSlots {types : TypeTable Code} {t : TypeId} {name : String}
    {field : Nat × ValueKind} (h : types.instanceField? t name = some field) :
    field ∈ types.instanceSlots t := by
  obtain ⟨owner, derived, found⟩ := List.exists_of_findSome?_eq_some h
  exact List.mem_flatMap.2 ⟨owner, List.mem_reverse.2 derived, mem_of_ownField? found⟩

theorem mem_of_declaredMember {info : TypeInfo Code} {name : String} {m : Member Code}
    (h : info.declaredMember name = some m) : m ∈ info.members := by
  unfold TypeInfo.declaredMember at h
  split at h
  · exact List.mem_of_getElem? h
  · cases h

/-- A member that is found by name is declared by its owner, which is in the chain. -/
theorem mem_of_resolveMember {types : TypeTable Code} {t owner : TypeId} {name : String}
    {member : Member Code} (h : types.resolveMember t name = some { owner, member }) :
    owner ∈ types.ancestors t ∧ member ∈ (types.info owner).members := by
  obtain ⟨owner', derived, found⟩ := List.exists_of_findSome?_eq_some h
  obtain ⟨member', declared, same⟩ := Option.map_eq_some_iff.1 found
  cases same
  exact ⟨derived, mem_of_declaredMember declared⟩

/-! ## 4. The declaration that owns a slot -/

/-- The `i`-th member of `owner`, a type in the chain of `t`, is the field of instances in the
slot. -/
def Declares (types : TypeTable Code) (t : TypeId) (slot : Nat) (owner : TypeId) (i : Nat)
    (kind : ValueKind) : Prop :=
  owner ∈ types.ancestors t ∧
    ∃ member, (types.info owner).members[i]? = some member ∧
      member.instanceField? = some (slot, kind)

/-- The `i`-th member of `t` is the static field in the slot. -/
def DeclaresStatic (types : TypeTable Code) (t : TypeId) (slot i : Nat) (kind : ValueKind) :
    Prop :=
  ∃ member, (types.info t).members[i]? = some member ∧ member.staticField? = some (slot, kind)

theorem eq_of_nodup_filterMap {α β : Type} {f : α → Option β} {l : List α}
    (nodup : (l.filterMap f).Nodup) {i j : Nat} {a b : α} {c : β} (first : l[i]? = some a)
    (second : l[j]? = some b) (fa : f a = some c) (fb : f b = some c) : i = j := by
  rw [List.Nodup, List.pairwise_filterMap, List.pairwise_iff_getElem] at nodup
  obtain ⟨hi, rfl⟩ := List.getElem?_eq_some_iff.1 first
  obtain ⟨hj, rfl⟩ := List.getElem?_eq_some_iff.1 second
  rcases Nat.lt_trichotomy i j with less | same | more
  · exact absurd rfl (nodup i j hi hj less c fa c fb)
  · exact same
  · exact absurd rfl (nodup j i hj hi more c fb c fa)

theorem nodup_of_numbered {members : List (Member Code)}
    {field? : Member Code → Option (Nat × ValueKind)}
    (numbered : Numbered (members.filterMap field?)) :
    (members.filterMap fun m => (field? m).map (·.1)).Nodup := by
  have slots : (members.filterMap field?).map (·.1) =
      members.filterMap fun m => (field? m).map (·.1) := List.map_filterMap
  rw [← slots, numbered]
  exact List.nodup_range

theorem exists_declares {types : TypeTable Code} {t : TypeId} {slot : Nat} {kind : ValueKind}
    (h : (slot, kind) ∈ types.instanceSlots t) : ∃ owner i, types.Declares t slot owner i kind := by
  obtain ⟨owner, derived, own⟩ := List.mem_flatMap.1 h
  obtain ⟨member, declared, field⟩ := List.mem_filterMap.1 own
  obtain ⟨i, here⟩ := List.mem_iff_getElem?.1 declared
  exact ⟨owner, i, List.mem_reverse.1 derived, member, here, field⟩

/-- No two declarations of a chain share a slot, whatever names they have. -/
theorem declares_unique {types : TypeTable Code} {t : TypeId}
    (numbered : Numbered (types.instanceSlots t)) {slot : Nat} {owner owner' : TypeId} {i i' : Nat}
    {kind kind' : ValueKind} (h : types.Declares t slot owner i kind)
    (h' : types.Declares t slot owner' i' kind') : owner' = owner ∧ i' = i := by
  obtain ⟨derived, member, here, field⟩ := h
  obtain ⟨derived', member', here', field'⟩ := h'
  have slots : (types.instanceSlots t).map (·.1) = (types.ancestors t).reverse.flatMap
      fun owner => (types.info owner).members.filterMap fun m => m.instanceField?.map (·.1) := by
    rw [instanceSlots, List.map_flatMap]
    exact List.flatMap_congr fun owner _ => List.map_filterMap
  have nodup := List.nodup_range (n := (types.instanceSlots t).length)
  rw [← numbered, slots, List.nodup_flatMap] at nodup
  have slot_here : member.instanceField?.map (·.1) = some slot := by rw [field]; rfl
  have slot_here' : member'.instanceField?.map (·.1) = some slot := by rw [field']; rfl
  by_cases same : owner' = owner
  · subst same
    exact ⟨rfl, eq_of_nodup_filterMap (nodup.1 owner' (List.mem_reverse.2 derived)) here' here
      slot_here' slot_here⟩
  · have symmetric : Std.Symm (Function.onFun List.Disjoint fun owner =>
        (types.info owner).members.filterMap fun m => m.instanceField?.map (·.1)) :=
      ⟨fun _ _ apart _ h h' => apart h' h⟩
    have apart := nodup.2.forall (List.mem_reverse.2 derived) (List.mem_reverse.2 derived')
      (Ne.symm same)
    exact absurd (List.mem_filterMap.2 ⟨member', List.mem_of_getElem? here', slot_here'⟩)
      (apart (List.mem_filterMap.2 ⟨member, List.mem_of_getElem? here, slot_here⟩))

theorem Declares.kind_unique {types : TypeTable Code} {t owner : TypeId} {slot i : Nat}
    {kind kind' : ValueKind} (h : types.Declares t slot owner i kind)
    (h' : types.Declares t slot owner i kind') : kind' = kind := by
  obtain ⟨-, member, here, field⟩ := h
  obtain ⟨-, member', here', field'⟩ := h'
  cases here.symm.trans here'
  cases field.symm.trans field'
  rfl

theorem exists_declaresStatic {types : TypeTable Code} {t : TypeId} {slot : Nat}
    {kind : ValueKind} (h : (slot, kind) ∈ (types.info t).staticSlots) :
    ∃ i, types.DeclaresStatic t slot i kind := by
  obtain ⟨member, declared, field⟩ := List.mem_filterMap.1 h
  obtain ⟨i, here⟩ := List.mem_iff_getElem?.1 declared
  exact ⟨i, member, here, field⟩

theorem declaresStatic_unique {types : TypeTable Code} {t : TypeId}
    (numbered : Numbered (types.info t).staticSlots) {slot i i' : Nat} {kind kind' : ValueKind}
    (h : types.DeclaresStatic t slot i kind) (h' : types.DeclaresStatic t slot i' kind') :
    i' = i := by
  obtain ⟨member, here, field⟩ := h
  obtain ⟨member', here', field'⟩ := h'
  exact eq_of_nodup_filterMap (nodup_of_numbered numbered) here' here
    (show _ = some slot by rw [field']; rfl) (by rw [field]; rfl)

theorem DeclaresStatic.kind_unique {types : TypeTable Code} {t : TypeId} {slot i : Nat}
    {kind kind' : ValueKind} (h : types.DeclaresStatic t slot i kind)
    (h' : types.DeclaresStatic t slot i kind') : kind' = kind := by
  obtain ⟨member, here, field⟩ := h
  obtain ⟨member', here', field'⟩ := h'
  cases here.symm.trans here'
  cases field.symm.trans field'
  rfl

end TypeTable

/-! ## 5. Built types -/

/-- A clause keeps to some conditions: on the base class, on the kinds of fields that begin with
the default of their kind, and on the values of static fields. -/
def Clause.Meets (base : TypeId → Prop) (default : ValueKind → Prop)
    (holds : ValueKind → Value → Prop) : Clause Code → Prop
  | .extends t => base t
  | .field _ kind => default kind
  | .staticField _ kind v => holds kind v
  | _ => True

/-- The fields of a declaration are numbered, and each slot has an initial value. -/
structure TypeBuilder.Counted (base : TypeId → Prop) (default : ValueKind → Prop)
    (holds : ValueKind → Value → Prop) (b : TypeBuilder Code) : Prop where
  base : ∀ t, b.base = some t → base t
  slots : Numbered (b.members.filterMap Member.instanceField?)
  inits : List.Forall₂ (fun init field => ∀ k, init = .default k → k = field.2) b.inits
    (b.members.filterMap Member.instanceField?)
  defaults : ∀ kind, .default kind ∈ b.inits → default kind
  staticSlots : Numbered (b.members.filterMap Member.staticField?)
  statics : List.Forall₂ (fun field v => holds field.2 v)
    (b.members.filterMap Member.staticField?) b.statics

theorem filterMap_hideLast {β : Type} {f : Member Code → Option β}
    (blind : ∀ m : Member Code, f { m with visibility := .nonPublic } = f m)
    (members : List (Member Code)) : (hideLast members).filterMap f = members.filterMap f := by
  induction members using hideLast.induct with
  | case1 => rfl
  | case2 m => simp [hideLast, List.filterMap_cons, blind]
  | case3 m next rest ih =>
    rw [hideLast, List.filterMap_cons, List.filterMap_cons, ih]

namespace TypeBuilder

variable {base : TypeId → Prop} {default : ValueKind → Prop} {holds : ValueKind → Value → Prop}

theorem counted_start (kind : TypeKind) (name : String) :
    (start kind name : TypeBuilder Code).Counted base default holds where
  base := nofun
  slots := rfl
  inits := .nil
  defaults := nofun
  staticSlots := rfl
  statics := .nil

theorem Counted.addField {b : TypeBuilder Code} (h : b.Counted base default holds) (name : String)
    {kind : ValueKind} {init : FieldInit Code} (suits : ∀ k, init = .default k → k = kind)
    (accepted : ∀ k, init = .default k → default k) :
    (b.addField name kind init).Counted base default holds := by
  have more : (b.addField name kind init).members.filterMap Member.instanceField? =
      b.members.filterMap Member.instanceField? ++ [(b.inits.length, kind)] := by
    simp [TypeBuilder.addField, addMember, Member.instanceField?]
  have same : (b.addField name kind init).members.filterMap Member.staticField? =
      b.members.filterMap Member.staticField? := by
    simp [TypeBuilder.addField, addMember, Member.staticField?]
  refine ⟨h.base, ?_, ?_, ?_, ?_, ?_⟩
  · rw [more, h.inits.length_eq]
    exact numbered_concat h.slots kind
  · rw [more]
    exact List.rel_append h.inits (.cons suits .nil)
  · intro k new
    rcases List.mem_append.1 new with old | last
    · exact h.defaults k old
    · exact accepted k (List.mem_singleton.1 last).symm
  · rw [same]
    exact h.staticSlots
  · rw [same]
    exact h.statics

theorem Counted.addStatic {b : TypeBuilder Code} (h : b.Counted base default holds) (name : String)
    {kind : ValueKind} {v : Value} (held : holds kind v) :
    (b.declare (.staticField name kind v)).Counted base default holds := by
  have more : (b.declare (.staticField name kind v)).members.filterMap Member.staticField? =
      b.members.filterMap Member.staticField? ++ [(b.statics.length, kind)] := by
    simp [declare, addMember, Member.staticField?]
  have same : (b.declare (.staticField name kind v)).members.filterMap Member.instanceField? =
      b.members.filterMap Member.instanceField? := by
    simp [declare, addMember, Member.instanceField?]
  refine ⟨h.base, ?_, ?_, h.defaults, ?_, ?_⟩
  · rw [same]
    exact h.slots
  · rw [same]
    exact h.inits
  · rw [more, ← h.statics.length_eq]
    exact numbered_concat h.staticSlots kind
  · rw [more]
    exact List.rel_append h.statics (.cons held .nil)

theorem Counted.addMember {b : TypeBuilder Code} (h : b.Counted base default holds) (name : String)
    (isStatic : Bool) {content : Content Code} (noField : ∀ slot kind, content ≠ .field slot kind) :
    (b.addMember name isStatic content).Counted base default holds := by
  have instanceFields : (b.addMember name isStatic content).members.filterMap
      Member.instanceField? = b.members.filterMap Member.instanceField? := by
    cases content with
    | field slot kind => exact absurd rfl (noField slot kind)
    | _ => cases isStatic <;> simp [TypeBuilder.addMember, Member.instanceField?]
  have staticFields : (b.addMember name isStatic content).members.filterMap
      Member.staticField? = b.members.filterMap Member.staticField? := by
    cases content with
    | field slot kind => exact absurd rfl (noField slot kind)
    | _ => cases isStatic <;> simp [TypeBuilder.addMember, Member.staticField?]
  refine ⟨h.base, ?_, ?_, h.defaults, ?_, ?_⟩
  · rw [instanceFields]
    exact h.slots
  · rw [instanceFields]
    exact h.inits
  · rw [staticFields]
    exact h.staticSlots
  · rw [staticFields]
    exact h.statics

/-- One clause. -/
theorem Counted.declare {b : TypeBuilder Code} (h : b.Counted base default holds)
    {clause : Clause Code} (meets : clause.Meets base default holds) :
    (b.declare clause).Counted base default holds := by
  cases clause with
  | «extends» t =>
    refine ⟨?_, h.slots, h.inits, h.defaults, h.staticSlots, h.statics⟩
    rintro _ ⟨⟩
    exact meets
  | field name kind =>
    refine h.addField name ?_ ?_
    · rintro _ ⟨⟩
      rfl
    · rintro _ ⟨⟩
      exact meets
  | fieldWith name kind code => exact h.addField name nofun nofun
  | staticField name kind v => exact h.addStatic name meets
  | property name isStatic getter setter => exact h.addMember name isStatic nofun
  | method name isStatic call => exact h.addMember name isStatic nofun
  | nonPublic =>
    have instanceFields := filterMap_hideLast (f := Member.instanceField?) (fun _ => rfl) b.members
    have staticFields := filterMap_hideLast (f := Member.staticField?) (fun _ => rfl) b.members
    refine ⟨h.base, ?_, ?_, h.defaults, ?_, ?_⟩
    · exact instanceFields ▸ h.slots
    · exact instanceFields ▸ h.inits
    · exact staticFields ▸ h.staticSlots
    · exact staticFields ▸ h.statics

/-- All clauses, in any order and with names used more than once. -/
theorem counted_ofClauses (kind : TypeKind) (name : String) {clauses : List (Clause Code)}
    (meets : ∀ clause ∈ clauses, clause.Meets base default holds) :
    (ofClauses kind name clauses).Counted base default holds := by
  have fold : ∀ (clauses : List (Clause Code)) (b : TypeBuilder Code),
      (∀ clause ∈ clauses, clause.Meets base default holds) → b.Counted base default holds →
      (clauses.foldl TypeBuilder.declare b).Counted base default holds := by
    intro clauses
    induction clauses with
    | nil => exact fun _ _ h => h
    | cons clause clauses ih =>
      intro b meets h
      exact ih _ (fun c later => meets c (List.mem_cons_of_mem _ later))
        (h.declare (meets clause List.mem_cons_self))
  exact fold clauses _ meets (counted_start kind name)

end TypeBuilder

theorem instanceField?_shiftSlot (offset : Nat) (m : Member Code) :
    (TypeBuilder.shiftSlot offset m).instanceField? =
      m.instanceField?.map fun field => (field.1 + offset, field.2) := by
  obtain ⟨name, visibility, isStatic, content⟩ := m
  cases isStatic <;> cases content <;> rfl

theorem staticField?_shiftSlot (offset : Nat) (m : Member Code) :
    (TypeBuilder.shiftSlot offset m).staticField? = m.staticField? := by
  obtain ⟨name, visibility, isStatic, content⟩ := m
  cases isStatic <;> cases content <;> rfl

namespace TypeTable

variable {types : TypeTable Code} {b : TypeBuilder Code}

theorem staticSlots_describe :
    (b.describe types).staticSlots = b.members.filterMap Member.staticField? := by
  simp only [TypeInfo.staticSlots, TypeBuilder.describe, List.filterMap_map, Function.comp_def,
    staticField?_shiftSlot]

/-- The slots of a new type are those of its base class, followed by its own. -/
theorem instanceSlots_describe (layered : types.Layered)
    (earlier : ∀ t, b.base = some t → t < types.size) :
    (types.add (b.describe types)).instanceSlots types.size =
      b.base.elim [] types.instanceSlots ++
        (b.members.filterMap Member.instanceField?).map fun field =>
          (field.1 + b.base.elim 0 fun t => (types.info t).fieldSlots, field.2) := by
  have own : (b.describe types).ownSlots =
      (b.members.filterMap Member.instanceField?).map fun field =>
        (field.1 + b.base.elim 0 fun t => (types.info t).fieldSlots, field.2) := by
    simp only [TypeInfo.ownSlots, TypeBuilder.describe, List.filterMap_map, Function.comp_def,
      instanceField?_shiftSlot, List.map_filterMap]
  have chain : (types.add (b.describe types)).ancestors types.size =
      types.size :: b.base.elim [] types.ancestors := by
    rw [ancestors, info_add]
    rfl
  rw [instanceSlots, chain, List.reverse_cons, List.flatMap_append, List.flatMap_singleton,
    info_add, own]
  congr 1
  rcases found : b.base with _ | t
  · rfl
  · have grown := extends_add types (b.describe types)
    rw [Option.elim_some, Option.elim_some, ← layered.instanceSlots_eq grown (earlier t found),
      instanceSlots, ancestors_eq grown (earlier t found)]

theorem lt_or_eq_of_add {info : TypeInfo Code} {t : TypeId} (declared : t < (types.add info).size) :
    t < types.size ∨ t = types.size := by
  rw [size, add, Array.size_push] at declared
  exact Nat.lt_succ_iff_lt_or_eq.1 declared

/-- A new type begins its fields as its base class does, followed by its own. -/
theorem inits_describe : ((types.add (b.describe types)).info types.size).inits =
    b.base.elim [] (fun t => (types.info t).inits) ++ b.inits := by
  rw [info_add]
  rfl

/-- A built type is layered, and so are the types before it still. -/
theorem layered_add {default : ValueKind → Prop} {holds : ValueKind → Value → Prop}
    (layered : types.Layered) (counted : b.Counted (· < types.size) default holds) :
    (types.add (b.describe types)).Layered := by
  have grown := extends_add types (b.describe types)
  have slots := instanceSlots_describe layered counted.base
  refine ⟨?_, ?_, ?_, ?_⟩
  · intro t declared
    rcases lt_or_eq_of_add declared with old | rfl
    · rcases layered.bases t old with none | ⟨base, earlier, chain⟩
      · exact .inl (by rw [grown.info t old, none])
      · refine .inr ⟨base, earlier, ?_⟩
        rw [grown.info t old, chain, ancestors_eq grown (Nat.lt_trans earlier old)]
    · rw [info_add]
      rcases found : b.base with _ | base
      · exact .inl (by simp [TypeBuilder.describe, found])
      · refine .inr ⟨base, counted.base base found, ?_⟩
        rw [ancestors_eq grown (counted.base base found)]
        simp [TypeBuilder.describe, found]
  · intro t declared
    rcases lt_or_eq_of_add declared with old | rfl
    · rw [layered.instanceSlots_eq grown old]
      exact layered.slots t old
    · rw [slots]
      rcases found : b.base with _ | base
      · simpa using counted.slots
      · have before := counted.base base found
        rw [Option.elim_some, Option.elim_some, ← layered.length_instanceSlots before]
        exact numbered_append (layered.slots base before) counted.slots
  · intro t declared
    rcases lt_or_eq_of_add declared with old | rfl
    · rw [grown.info t old, layered.fieldKinds_eq grown old]
      exact layered.inits t old
    · rw [inits_describe, fieldKinds, slots, List.map_append, List.map_map]
      refine List.rel_append ?_ ?_
      · rcases found : b.base with _ | base
        · exact .nil
        · exact layered.inits base (counted.base base found)
      · rw [List.forall₂_map_right_iff]
        exact counted.inits
  · intro t declared
    rcases lt_or_eq_of_add declared with old | rfl
    · rw [grown.info t old]
      exact layered.statics t old
    · rw [info_add, staticSlots_describe]
      exact counted.staticSlots

/-- A built type is laid out, and so are the types before it still. -/
theorem laidOut_add {holds : ValueKind → Value → Prop} (laidOut : types.LaidOut)
    (counted : b.Counted (· < types.size) types.HasDefault holds) :
    (types.add (b.describe types)).LaidOut := by
  have grown := extends_add types (b.describe types)
  refine ⟨layered_add laidOut.toLayered counted, ?_⟩
  intro t declared s default
  have kept {s : TypeId} (value : types.isValueType s = true) :
      (types.add (b.describe types)).isValueType s = true := by
    rw [isValueType, kind, grown.info s (isValueType_lt value)]
    exact value
  rcases lt_or_eq_of_add declared with old | rfl
  · rw [grown.info t old] at default
    obtain ⟨earlier, value⟩ := laidOut.defaults t old s default
    exact ⟨earlier, kept value⟩
  · rw [inits_describe, List.mem_append] at default
    rcases default with inherited | own
    · rcases found : b.base with _ | base
      · simp [found] at inherited
      · rw [found] at inherited
        have before := counted.base base found
        obtain ⟨earlier, value⟩ := laidOut.defaults base before s inherited
        exact ⟨Nat.lt_trans earlier before, kept value⟩
    · have value := counted.defaults _ own s rfl
      exact ⟨isValueType_lt value, kept value⟩

end TypeTable

end ObjectGraph
