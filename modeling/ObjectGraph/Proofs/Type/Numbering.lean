import Mathlib.Data.List.Infix
import ObjectGraph.Proofs.Type.Chain

/-!
# The numbering of slots

The slots of an instance are numbered without gaps, and a derived class continues the numbering of
its base class: what is stored in an inherited slot does not depend on the type through which the
slot is looked at. Static fields are numbered by each type on its own. Where the clause that names
the base class stands among the other clauses does not matter, and of several such clauses all but
the last do not matter at all.

1. `Clause.base?`, `ofClauses_eq`: the base class is a separate part of a declaration;
2. `Built.inits_prefix`, `Inherits`: what a derived class takes over;
3. `layout_of_declare`: the layout of a declared type.
-/

namespace ObjectGraph

variable {Code : Type}

/-! ## 1. The base class in a declaration -/

/-- The base class that a clause names. -/
def Clause.base? : Clause Code → Option TypeId
  | .extends base => some base
  | _ => none

/-- The last base class that some clauses name. -/
def lastBase? (clauses : List (Clause Code)) : Option TypeId :=
  (clauses.filterMap Clause.base?).getLast?

/-- The clauses that name no base class. -/
def ownClauses (clauses : List (Clause Code)) : List (Clause Code) :=
  clauses.filter fun clause => clause.base?.isNone

/-- Clauses are read one after the other. -/
theorem TypeBuilder.ofClauses_concat (kind : TypeKind) (name : String)
    (clauses : List (Clause Code)) (clause : Clause Code) :
    ofClauses kind name (clauses ++ [clause]) = (ofClauses kind name clauses).declare clause :=
  List.foldl_concat ..

/-- A clause that names no base class is read in the same way whatever the base class is. -/
theorem TypeBuilder.declare_withBase (b : TypeBuilder Code) (base : Option TypeId)
    {clause : Clause Code} (own : clause.base? = none) :
    declare { b with base } clause = { b.declare clause with base } := by
  cases clause with
  | «extends» t => cases own
  | _ => rfl

/-- The base class is the last one that is named, and everything else comes from the other
clauses. -/
theorem TypeBuilder.ofClauses_eq (kind : TypeKind) (name : String) (clauses : List (Clause Code)) :
    ofClauses kind name clauses =
      { ofClauses kind name (ownClauses clauses) with base := lastBase? clauses } := by
  induction clauses using List.reverseRecOn with
  | nil => rfl
  | append_singleton clauses clause ih =>
    rw [ofClauses_concat, ih]
    rcases named : clause.base? with _ | base
    · have clauses_own : ownClauses (clauses ++ [clause]) = ownClauses clauses ++ [clause] := by
        simp [ownClauses, named]
      have base_kept : lastBase? (clauses ++ [clause]) = lastBase? clauses := by
        simp [lastBase?, named]
      rw [clauses_own, base_kept, ofClauses_concat, declare_withBase _ _ named]
    · obtain rfl : clause = .extends base := by
        cases clause with
        | «extends» t => cases named; rfl
        | _ => cases named
      have clauses_own : ownClauses (clauses ++ [.extends base]) = ownClauses clauses := by
        simp [ownClauses, Clause.base?]
      have base_new : lastBase? (clauses ++ [.extends base]) = some base := by
        simp [lastBase?, Clause.base?]
      rw [clauses_own, base_new]
      rfl

/-- A declaration reads the same if the clause for the base class stands anywhere among the others,
and no other clause names one. -/
theorem TypeBuilder.ofClauses_moved (kind : TypeKind) (name : String)
    {clauses front back : List (Clause Code)} {base : TypeId} (last : lastBase? clauses = some base)
    (others : front ++ back = ownClauses clauses) :
    ofClauses kind name (front ++ .extends base :: back) = ofClauses kind name clauses := by
  have own : ∀ clause ∈ front ++ back, clause.base? = none := by
    intro clause here
    rw [others, ownClauses, List.mem_filter] at here
    exact Option.isNone_iff_eq_none.1 here.2
  have none_named {part : List (Clause Code)} (h : ∀ clause ∈ part, clause.base? = none) :
      part.filterMap Clause.base? = [] := List.filterMap_eq_nil_iff.2 h
  have all_kept {part : List (Clause Code)} (h : ∀ clause ∈ part, clause.base? = none) :
      ownClauses part = part :=
    List.filter_eq_self.2 fun clause here => Option.isNone_iff_eq_none.2 (h clause here)
  have inFront := fun clause here => own clause (List.mem_append_left back here)
  have inBack := fun clause here => own clause (List.mem_append_right front here)
  have clauses_own : ownClauses (front ++ .extends base :: back) = ownClauses clauses := by
    rw [← others, ← all_kept own]
    simp [ownClauses, Clause.base?]
  have base_same : lastBase? (front ++ .extends base :: back) = lastBase? clauses := by
    rw [last, lastBase?, List.filterMap_append, List.filterMap_cons, none_named inFront,
      none_named inBack]
    rfl
  rw [ofClauses_eq, clauses_own, base_same, ← ofClauses_eq]

/-! ## 2. What a derived class takes over -/

namespace TypeTable

variable {types : TypeTable Code} {t : TypeId}

theorem map_snd_instanceFields (types : TypeTable Code) (t : TypeId) :
    (types.instanceFields t).map (·.2) = (types.instanceSlots t).map (·.1) := by
  rw [instanceFields, instanceSlots, List.map_flatMap, List.map_flatMap]
  refine List.flatMap_congr fun owner _ => ?_
  simp only [TypeInfo.ownFields, TypeInfo.ownSlots, List.map_filterMap, Option.map_map]
  rfl

/-- A type has no base class, or it continues the chain and the first values of one. -/
theorem Built.base_cases (built : types.Built) (declared : t < types.size) :
    (types.info t).bases = [] ∨ ∃ base < t, (types.info t).bases = types.ancestors base ∧
      (types.info base).inits <+: (types.info t).inits := by
  obtain ⟨earlier, kind, name, clauses, -, grown, rfl, above, -, same⟩ := built.origin declared
  have counted := TypeBuilder.counted_of_declared kind name above
  rcases found : (TypeBuilder.ofClauses kind name clauses).base with _ | base
  · exact .inl (by simp [same, TypeBuilder.describe, found])
  · have below := counted.base base found
    refine .inr ⟨base, below, ?_, ?_⟩
    · rw [same, ancestors_eq grown below]
      simp [TypeBuilder.describe, found]
    · rw [same, grown.info base below]
      simp [TypeBuilder.describe, found]

/-- The fields that a type inherits begin as they do in the class that it inherits them from. -/
theorem Built.inits_prefix (built : types.Built) (declared : t < types.size) {owner : TypeId}
    (derived : owner ∈ types.ancestors t) : (types.info owner).inits <+: (types.info t).inits := by
  induction t using Nat.strongRecOn with
  | ind t ih =>
    rcases mem_ancestors.1 derived with rfl | inherited
    · exact List.prefix_rfl
    rcases built.base_cases declared with none | ⟨base, below, chain, continued⟩
    · simp [none] at inherited
    · rw [chain] at inherited
      exact (ih base below (Nat.lt_trans below declared) inherited).trans continued

/-- The slot belongs to the `i`-th member of `owner`, and to no other member of the chain of `t`. -/
structure Owns (types : TypeTable Code) (t : TypeId) (slot : Nat) (owner : TypeId) (i : Nat)
    (kind : ValueKind) : Prop where
  declares : types.Declares t slot owner i kind
  only : ∀ owner' i' kind', types.Declares t slot owner' i' kind' → owner' = owner ∧ i' = i

/-- What `t` takes over from `base`: the fields come first and keep their slots, and each of these
slots belongs to the same field and begins in the same way. -/
structure Inherits (types : TypeTable Code) (t base : TypeId) : Prop where
  fields : types.instanceFields base <+: types.instanceFields t
  slots : ∀ slot < (types.info base).fieldSlots, ∃ owner i kind init,
    types.Owns base slot owner i kind ∧ types.Owns t slot owner i kind ∧
    (types.info base).inits[slot]? = some init ∧ (types.info t).inits[slot]? = some init

namespace Layered

variable (layered : types.Layered)
include layered

/-- The slots that are listed are all slots, in their order. -/
theorem slots_instanceFields (declared : t < types.size) :
    (types.instanceFields t).map (·.2) = List.range (types.info t).fieldSlots := by
  rw [map_snd_instanceFields, layered.slots t declared, layered.length_instanceSlots declared]

theorem instanceFields_prefix (declared : t < types.size) {owner : TypeId}
    (derived : owner ∈ types.ancestors t) :
    types.instanceFields owner <+: types.instanceFields t :=
  (List.reverse_prefix.2 (layered.ancestors_suffix declared derived)).flatMap _

/-- Each slot has its owner, whose kind is that of the slot. -/
theorem exists_owns_of_kind (declared : t < types.size) {slot : Nat} {kind : ValueKind}
    (here : (types.fieldKinds t)[slot]? = some kind) :
    ∃ owner i, types.Owns t slot owner i kind := by
  obtain ⟨owner, i, declares⟩ := exists_declares (mem_of_slot (layered.slots t declared) here)
  exact ⟨owner, i, declares, fun _ _ _ other =>
    declares_unique (layered.slots t declared) declares other⟩

theorem exists_owns (declared : t < types.size) {slot : Nat}
    (inside : slot < (types.info t).fieldSlots) :
    ∃ owner i kind, types.Owns t slot owner i kind := by
  rw [← layered.length_instanceSlots declared, ← List.length_map (·.2)] at inside
  obtain ⟨owner, i, owns⟩ :=
    layered.exists_owns_of_kind declared (List.getElem?_eq_getElem inside)
  exact ⟨owner, i, _, owns⟩

/-- The owner of a slot is the same along the chain. -/
theorem owns_of_owns (declared : t < types.size) {base : TypeId}
    (derived : base ∈ types.ancestors t) {slot i : Nat} {owner : TypeId} {kind : ValueKind}
    (owns : types.Owns base slot owner i kind) : types.Owns t slot owner i kind := by
  have part := (layered.ancestors_suffix declared derived).subset
  have declares : types.Declares t slot owner i kind := ⟨part owns.declares.1, owns.declares.2⟩
  exact ⟨declares, fun _ _ _ other =>
    declares_unique (layered.slots t declared) declares other⟩

end Layered

theorem Built.inherits (built : types.Built) (declared : t < types.size) {base : TypeId}
    (derived : base ∈ types.ancestors t) : types.Inherits t base := by
  have layered := built.layered
  refine ⟨layered.instanceFields_prefix declared derived, fun slot inside => ?_⟩
  have earlier := Nat.lt_of_le_of_lt (layered.ancestors_le declared derived) declared
  obtain ⟨owner, i, kind, owns⟩ := layered.exists_owns earlier inside
  have continued := List.prefix_iff_getElem?.1 (built.inits_prefix declared derived) slot inside
  exact ⟨owner, i, kind, _, owns, layered.owns_of_owns declared derived owns,
    List.getElem?_eq_getElem inside, continued⟩

end TypeTable

/-! ## 3. The layout of a declared type -/

/-- The layout of a type that has been declared, by whatever clauses in whatever order.

* Its fields of instances are listed with the slots `0`, `1`, and so on, as many as an instance has.
* From each class that it derives from, near or far, it inherits all fields as they are: they come
  first, with their slots, kinds and first values.
* Its own static fields have the static slots `0`, `1`, and so on, in the order of their clauses;
  these are the slots that they would have without any base class.
* The declaration has the same result, and leaves the same world, if of the clauses that name a base
  class only the last one is left, at any position among the other clauses. -/
theorem layout_of_declare {Host : Type} {w w' : World Code Host} (built : w.types.Built)
    {kind : TypeKind} {name : String} {clauses : List (Clause Code)} {t : TypeId}
    (declared : ∀ base, .extends base ∈ clauses → base < w.types.size)
    (done : w.declare (.ofClauses kind name clauses) = .ok (t, w')) :
    (w'.types.instanceFields t).map (·.2) = List.range (w'.types.info t).fieldSlots ∧
    (∀ base, w'.types.isSubtype t base = true → w'.types.Inherits t base) ∧
    Numbered (w'.types.info t).staticSlots ∧
    (∀ types : TypeTable Code, (w'.types.info t).staticSlots =
      ((TypeBuilder.ofClauses kind name (ownClauses clauses)).describe types).staticSlots) ∧
    ∀ base front back, lastBase? clauses = some base → front ++ back = ownClauses clauses →
      w.declare (.ofClauses kind name (front ++ .extends base :: back)) = .ok (t, w') := by
  obtain ⟨built', first⟩ := World.built_declare built kind name declared done
  have info : t < w'.types.size ∧
      w'.types.info t = (TypeBuilder.ofClauses kind name clauses).describe w.types := by
    unfold World.declare at done
    split at done
    · cases done
    · cases done
      exact ⟨by simp [TypeTable.size, TypeTable.add], TypeTable.info_add w.types _⟩
  have layered := built'.layered
  refine ⟨layered.slots_instanceFields info.1, fun base derived => ?_,
    layered.statics t info.1, fun types => ?_, fun base front back last others => ?_⟩
  · exact built'.inherits info.1 (List.contains_iff_mem.1 derived)
  · rw [info.2, TypeTable.staticSlots_describe, TypeTable.staticSlots_describe,
      TypeBuilder.ofClauses_eq]
  · rw [TypeBuilder.ofClauses_moved kind name last others]
    exact done

/-- Two classes: one with a field and a static field, and one without members. -/
def units : World Empty Unit :=
  let unit : TypeBuilder Empty := .ofClauses .reference "Unit"
    [.field "hp" .int, .staticField "count" .int (.int 0)]
  let types : TypeTable Empty := TypeTable.add {} (unit.describe {})
  { types := types.add ((TypeBuilder.ofClauses .reference "Ghost" []).describe types)
    statics := #[{ cells := #[.int 0] }, {}]
    host := () }

theorem built_units : units.types.Built :=
  .add (.add .empty .reference "Unit" (by simp) rfl) .reference "Ghost" nofun rfl

/-- A class that first names one base class and then another, and declares both names again. -/
def playerClauses : List (Clause Empty) :=
  [.extends 1, .field "name" .str, .field "hp" .float, .extends 0,
    .staticField "count" .int (.int 5)]

/-- The two classes and the one that the clauses declare. -/
def withPlayer : World Empty Unit :=
  { units with
    types := units.types.add
      ((TypeBuilder.ofClauses .reference "Player" playerClauses).describe units.types)
    statics := units.statics.push { cells := #[.int 5] } }

theorem layout_of_player :
    units.declare (.ofClauses .reference "Player" playerClauses) = .ok (2, withPlayer) ∧
      withPlayer.types.instanceFields 2 = [("hp", 0), ("name", 1), ("hp", 2)] ∧
      (withPlayer.types.instanceFields 2).map (·.2) = List.range 3 ∧
      withPlayer.types.Inherits 2 0 ∧
      units.declare (.ofClauses .reference "Player" ([.field "name" .str, .field "hp" .float] ++
        .extends 0 :: [.staticField "count" .int (.int 5)])) = .ok (2, withPlayer) := by
  have declared : ∀ base, .extends base ∈ playerClauses → base < units.types.size := by
    intro base named
    obtain rfl | rfl : base = 1 ∨ base = 0 := by simpa [playerClauses] using named
    · decide
    · decide
  have done : units.declare (.ofClauses .reference "Player" playerClauses) = .ok (2, withPlayer) :=
    rfl
  obtain ⟨slots, inherits, -, -, moved⟩ := layout_of_declare built_units declared done
  exact ⟨done, rfl, slots, inherits 0 (by decide), moved 0 _ _ rfl rfl⟩

end ObjectGraph
