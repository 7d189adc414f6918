import Mathlib.Data.List.Infix
import ObjectGraph.Proofs.Type.Resolution

/-!
# Subtypes

A type is a subtype of every type in its chain of ancestors. Chains are made once and for all when a
type is declared, from the chain of its base class, so the chain of an ancestor is always the end of
the chain, and the order laws follow from that. Only classes derive, and only from classes, so the
chain of a value type is the type itself.

An instance of a subtype can stand where an instance of the supertype is asked for: the kinds that
ask for the supertype accept it, and each name that has a meaning there has one here.

1. `Built.ancestors_suffix`, `Built.isSubtype_trans`, `Built.isSubtype_antisymm`,
   `Built.isSubtype_total`: the order;
2. `Built.reference_of_base?`, `Built.reference_of_bases`,
   `Built.isSubtype_iff_of_isValueType`: classes and value types;
3. `World.accepts_of_isSubtype`, `Built.resolves_of_isSubtype`: substitution;
4. `subtyping`: all of it.
-/

namespace ObjectGraph

variable {Code : Type}

namespace TypeTable

variable {types : TypeTable Code} {s t u : TypeId}

/-! ## 1. The order -/

theorem isSubtype_iff : types.isSubtype s t = true ↔ t ∈ types.ancestors s :=
  List.contains_iff_mem

theorem isSubtype_refl (types : TypeTable Code) (t : TypeId) : types.isSubtype t t = true :=
  isSubtype_iff.2 List.mem_cons_self

namespace Built

variable (built : types.Built)
include built

/-- The chain of a supertype is the end of the chain. -/
theorem ancestors_suffix (derived : types.isSubtype s t = true) :
    types.ancestors t <:+ types.ancestors s := by
  rw [isSubtype_iff] at derived
  by_cases declared : s < types.size
  · exact built.layered.ancestors_suffix declared derived
  · rw [ancestors, info_of_undeclared declared] at derived
    rw [List.mem_singleton.1 derived]

theorem isSubtype_trans (first : types.isSubtype s t = true)
    (second : types.isSubtype t u = true) : types.isSubtype s u = true :=
  isSubtype_iff.2 ((built.ancestors_suffix first).subset (isSubtype_iff.1 second))

/-- Chains of one length, one of which is the end of the other, begin with the same type. -/
theorem isSubtype_antisymm (first : types.isSubtype s t = true)
    (second : types.isSubtype t s = true) : s = t := by
  have shorter := built.ancestors_suffix first
  have longer := built.ancestors_suffix second
  have same : types.ancestors t = types.ancestors s :=
    shorter.eq_of_length (Nat.le_antisymm shorter.length_le longer.length_le)
  exact (List.cons.inj same).1.symm

/-- Of two ends of one chain, one is the end of the other. -/
theorem isSubtype_total (first : types.isSubtype s t = true)
    (second : types.isSubtype s u = true) :
    types.isSubtype t u = true ∨ types.isSubtype u t = true := by
  rcases List.suffix_or_suffix_of_suffix (built.ancestors_suffix first)
    (built.ancestors_suffix second) with short | long
  · exact .inr (isSubtype_iff.2 (short.subset List.mem_cons_self))
  · exact .inl (isSubtype_iff.2 (long.subset List.mem_cons_self))

end Built

end TypeTable

/-! ## 2. Classes and value types -/

/-- A declaration that names a base class makes a type only if both are classes. -/
theorem TypeBuilder.reference_of_fault? {types : TypeTable Code} {b : TypeBuilder Code}
    {base : TypeId} (sound : b.fault? types = none) (found : b.base = some base) :
    b.kind = .reference ∧ types.kind base = .reference := by
  simp only [fault?, found] at sound
  split at sound
  · cases sound
  next noValue =>
  split at sound
  · cases sound
  next noValueBase =>
  refine ⟨?_, ?_⟩
  · rcases kind : b.kind with _ | _
    · rfl
    · exact absurd kind noValue
  · rcases kind : types.kind base with _ | _
    · rfl
    · exact absurd (beq_iff_eq.2 kind) noValueBase

namespace TypeTable

variable {types : TypeTable Code} {s t u : TypeId}

namespace Built

variable (built : types.Built)
include built

/-- A type with a base class is a class, and so is its base class. -/
theorem reference_of_base? {base : TypeId} (declared : t < types.size)
    (derives : types.base? t = some base) :
    types.kind t = .reference ∧ types.kind base = .reference := by
  obtain ⟨earlier, kind, name, clauses, -, grown, rfl, above, sound, same⟩ := built.origin declared
  have counted := TypeBuilder.counted_of_declared kind name above
  rcases found : (TypeBuilder.ofClauses kind name clauses).base with _ | base'
  · simp [base?, same, TypeBuilder.describe, found] at derives
  · obtain rfl : base' = base := by
      simpa [base?, same, TypeBuilder.describe, found, ancestors] using derives
    obtain ⟨own, ofBase⟩ := TypeBuilder.reference_of_fault? sound found
    refine ⟨?_, ?_⟩
    · rw [TypeTable.kind, same]
      exact own
    · rw [TypeTable.kind, grown.info base' (counted.base base' found)]
      exact ofBase

/-- All types of a chain are classes if there is more than one. -/
theorem reference_of_bases (derives : (types.info t).bases ≠ []) {owner : TypeId}
    (derived : owner ∈ types.ancestors t) : types.kind owner = .reference := by
  induction t using Nat.strongRecOn with
  | ind t ih =>
    by_cases declared : t < types.size
    case neg => exact absurd (by rw [info_of_undeclared declared]; rfl) derives
    rcases built.base_cases declared with root | ⟨base, below, chain, -⟩
    · exact absurd root derives
    have named : types.base? t = some base := by
      rw [base?, chain]
      rfl
    obtain ⟨own, ofBase⟩ := built.reference_of_base? declared named
    rw [ancestors, chain, List.mem_cons] at derived
    rcases derived with rfl | inherited
    · exact own
    · by_cases root : (types.info base).bases = []
      · rw [ancestors, root] at inherited
        rw [List.mem_singleton.1 inherited]
        exact ofBase
      · exact ih base below root inherited

/-- A value type is a subtype of itself only, and has no other subtype. -/
theorem isSubtype_iff_of_isValueType (value : types.isValueType s = true) (t : TypeId) :
    (types.isSubtype s t = true ↔ t = s) ∧ (types.isSubtype t s = true ↔ t = s) := by
  have noClass (reference : types.kind s = .reference) : False := by
    rw [isValueType, reference] at value
    cases value
  refine ⟨⟨fun derived => ?_, ?_⟩, ⟨fun derived => ?_, ?_⟩⟩
  · rcases mem_ancestors.1 (isSubtype_iff.1 derived) with same | inherited
    · exact same
    · exact (noClass (built.reference_of_bases (List.ne_nil_of_mem inherited)
        List.mem_cons_self)).elim
  · rintro rfl
    exact isSubtype_refl types t
  · rcases mem_ancestors.1 (isSubtype_iff.1 derived) with same | inherited
    · exact same.symm
    · exact (noClass (built.reference_of_bases (List.ne_nil_of_mem inherited)
        (isSubtype_iff.1 derived))).elim
  · rintro rfl
    exact isSubtype_refl types t

/-! ## 3. Substitution -/

/-- A name that stands for a member of a supertype stands for a member. -/
theorem resolves_of_isSubtype (derived : types.isSubtype s t = true) {name : String}
    (resolved : (types.resolveMember t name).isSome) :
    (types.resolveMember s name).isSome := by
  rw [Option.isSome_iff_ne_none, ne_eq, built.resolveMember_eq_none_iff] at resolved ⊢
  intro unnamed
  exact resolved fun owner further =>
    unnamed owner ((built.ancestors_suffix derived).subset further)

end Built

end TypeTable

/-- The kind of a supertype accepts what the kind of the type accepts, and so does the kind of all
objects. -/
theorem World.accepts_of_isSubtype {Host : Type} {w : World Code Host} (built : w.types.Built)
    {s t : TypeId} (derived : w.types.isSubtype s t = true) {v : Value}
    (accepted : w.accepts (.object s) v = true) :
    w.accepts (.object t) v = true ∧ w.accepts .anyObject v = true := by
  cases v with
  | null => exact ⟨rfl, rfl⟩
  | object a =>
    refine ⟨?_, rfl⟩
    simp only [accepts] at accepted ⊢
    rcases found : w.typeOf? (.object a) with _ | type
    · rw [found] at accepted
      exact accepted
    · rw [found] at accepted
      exact built.isSubtype_trans accepted derived
  | _ => cases accepted

/-! ## 4. All laws -/

/-- The subtype relation is an order, and the supertypes of a type form a chain. -/
structure TypeTable.Ordered (types : TypeTable Code) : Prop where
  refl : ∀ t, types.isSubtype t t = true
  trans : ∀ s t u, types.isSubtype s t = true → types.isSubtype t u = true →
    types.isSubtype s u = true
  antisymm : ∀ s t, types.isSubtype s t = true → types.isSubtype t s = true → s = t
  total : ∀ s t u, types.isSubtype s t = true → types.isSubtype s u = true →
    types.isSubtype t u = true ∨ types.isSubtype u t = true

/-- Instances of `s` can stand where instances of `t` are asked for. -/
structure World.Substitutes {Host : Type} (w : World Code Host) (s t : TypeId) : Prop where
  accepted : ∀ v, w.accepts (.object s) v = true →
    w.accepts (.object t) v = true ∧ w.accepts .anyObject v = true
  resolved : ∀ name, (w.types.resolveMember t name).isSome →
    (w.types.resolveMember s name).isSome

/-- The subtype relation between built types is sound for substitution. It is an order of the types
themselves, whatever their names are, and the supertypes of a type form a chain. If a chain has more
than one type then all of them are classes; a value type has no supertype and no subtype but itself.
A subtype substitutes for its supertypes. -/
theorem subtyping {Host : Type} {w : World Code Host} (built : w.types.Built) :
    w.types.Ordered ∧
    (∀ t, 1 < (w.types.ancestors t).length →
      ∀ owner ∈ w.types.ancestors t, w.types.kind owner = .reference) ∧
    (∀ s, w.types.isValueType s = true → ∀ t,
      (w.types.isSubtype s t = true ↔ t = s) ∧ (w.types.isSubtype t s = true ↔ t = s)) ∧
    ∀ s t, w.types.isSubtype s t = true → w.Substitutes s t := by
  have ordered : w.types.Ordered :=
    { refl := w.types.isSubtype_refl
      trans := fun _ _ _ => built.isSubtype_trans
      antisymm := fun _ _ => built.isSubtype_antisymm
      total := fun _ _ _ => built.isSubtype_total }
  refine ⟨ordered, fun t long owner derived => ?_,
    fun s value => built.isSubtype_iff_of_isValueType value, fun s t derived => ?_⟩
  · have derives : (w.types.info t).bases ≠ [] := by
      intro root
      simp [TypeTable.ancestors, root] at long
    exact built.reference_of_bases derives derived
  · exact ⟨fun v accepted => World.accepts_of_isSubtype built derived accepted,
      fun name resolved => built.resolves_of_isSubtype derived resolved⟩

/-- A class that derives from another one, each with an instance, and a value type. -/
def fleet : World Empty Unit :=
  let types : TypeTable Empty := TypeTable.add {}
    ((TypeBuilder.ofClauses .reference "Ship" [.staticField "built" .int (.int 2)]).describe {})
  let types := types.add
    ((TypeBuilder.ofClauses .reference "Ship" [.extends 0, .field "load" .int]).describe types)
  { types := types.add ((TypeBuilder.ofClauses .value "Port" [.field "x" .int]).describe types)
    statics := #[{ cells := #[.int 2] }, {}, {}]
    entities := #[{ shape := .object 0, storage := {} },
      { shape := .object 1, storage := { cells := #[.int 5] } }]
    host := () }

theorem built_fleet : fleet.types.Built :=
  .add (.add (.add .empty .reference "Ship" (by simp) rfl) .reference "Ship" (by simp; decide) rfl)
    .value "Port" (by simp) rfl

theorem subtyping_fleet :
    fleet.types.isSubtype 1 0 = true ∧ fleet.types.isSubtype 0 1 = false ∧
      fleet.types.kind 0 = .reference ∧
      (fleet.types.isSubtype 2 0 = true ↔ 0 = 2) ∧
      fleet.accepts (.object 1) (.object 1) = true ∧
      fleet.accepts (.object 0) (.object 1) = true ∧
      fleet.accepts (.object 1) (.object 0) = false ∧
      (fleet.types.resolveMember 1 "built").isSome := by
  obtain ⟨-, classes, values, substitutes⟩ := subtyping built_fleet
  have derived : fleet.types.isSubtype 1 0 = true := rfl
  have accepted : fleet.accepts (.object 1) (.object 1) = true := rfl
  refine ⟨derived, rfl, classes 1 (by decide) 0 (by decide), (values 2 rfl 0).1, accepted,
    ((substitutes 1 0 derived).accepted _ accepted).1, rfl,
    (substitutes 1 0 derived).resolved "built" rfl⟩

end ObjectGraph
