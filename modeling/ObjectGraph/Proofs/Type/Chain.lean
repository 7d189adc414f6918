import Mathlib.Data.List.Infix
import Mathlib.Data.List.Pairwise
import ObjectGraph.Proofs.Type.Layout
import ObjectGraph.World

/-!
# The chain of a type

A built type continues the chain of the class that it derives from. Both ways of finding a member
by name go along the chain in one order: the type itself before its bases, and in each type the
members in the order of their declaration. So each of them is a search in one list, the list of all
declarations of the chain.

1. `NameTable.lookup_ofNames`, `TypeInfo.declaredMember_eq`: the table of names finds first members;
2. `TypeTable.Built`, `Built.origin`: tables of built types, and how each type came about;
3. `Layered.ancestors_suffix`, `Layered.pairwise_ancestors`: the chains of ancestors;
4. `TypeTable.declarations`, `resolveMember_eq`, `instanceField?_eq`: finding is searching;
5. `Declaration.Before`, `pairwise_declarations`, `before_asymm`, `before_total`: the order of the
   search.
-/

namespace ObjectGraph

variable {Code : Type}

/-! ## 1. The table of names -/

namespace NameTable

theorem lookup_insertIfNew (table : NameTable) (name key : String) (position : Nat) :
    (table.insertIfNew name position).lookup key =
      (table.lookup key).or (if key == name then some position else none) := by
  unfold insertIfNew
  by_cases same : key == name
  · obtain rfl := eq_of_beq same
    rcases found : table.lookup key with _ | earlier
    · simp [List.lookup_append, found]
    · simp [found]
  · split
    · simp
    · simp [List.lookup_append, List.lookup_cons, same]

/-- A table of names gives the position of the first occurrence. -/
theorem lookup_ofNames (table : NameTable) (position : Nat) (names : List String) (key : String) :
    (ofNames table position names).lookup key =
      (table.lookup key).or ((names.findIdx? (· == key)).map (· + position)) := by
  induction names generalizing table position with
  | nil => simp [ofNames]
  | cons name names ih =>
    rw [ofNames, ih, lookup_insertIfNew, Option.or_assoc, List.findIdx?_cons]
    by_cases same : name = key
    · simp [same]
    · have other : (key == name) = false := by simpa using Ne.symm same
      simp [same, other, Function.comp_def, Nat.add_assoc, Nat.add_comm 1]

end NameTable

/-- The table of names is that of the members. -/
def TypeInfo.Indexed (info : TypeInfo Code) : Prop :=
  info.positions = NameTable.ofNames [] 0 (info.members.map (·.name))

theorem TypeInfo.Indexed.declaredMember_eq {info : TypeInfo Code} (indexed : info.Indexed)
    (name : String) : info.declaredMember name = info.members.find? (·.name == name) := by
  have position : info.positions.lookup name = info.members.findIdx? (·.name == name) := by
    rw [indexed, NameTable.lookup_ofNames]
    simp [List.findIdx?_map, Function.comp_def]
  rw [List.find?_eq_bind_findIdx?_getElem?, ← position, TypeInfo.declaredMember]
  rcases info.positions.lookup name with _ | i
  · rfl
  · rfl

/-! ## 2. Built types -/

namespace TypeTable

/-- A table of built types: each one is declared by some clauses, and derives from a class that is
declared before it. -/
inductive Built : TypeTable Code → Prop
  | empty : Built {}
  | add {types : TypeTable Code} (built : Built types) (kind : TypeKind) (name : String)
      {clauses : List (Clause Code)}
      (declared : ∀ base, .extends base ∈ clauses → base < types.size)
      (sound : (TypeBuilder.ofClauses kind name clauses).fault? types = none) :
      Built (types.add ((TypeBuilder.ofClauses kind name clauses).describe types))

end TypeTable

/-- A declaration derives from a class that one of its clauses names. -/
theorem TypeBuilder.counted_of_declared {types : TypeTable Code} (kind : TypeKind) (name : String)
    {clauses : List (Clause Code)}
    (declared : ∀ base, .extends base ∈ clauses → base < types.size) :
    (ofClauses kind name clauses).Counted (· < types.size) (fun _ => True) fun _ _ => True := by
  refine counted_ofClauses kind name fun clause here => ?_
  cases clause with
  | «extends» base => exact declared base here
  | _ => trivial

namespace TypeTable

theorem Built.layered {types : TypeTable Code} (built : types.Built) : types.Layered := by
  induction built with
  | empty => exact ⟨nofun, nofun, nofun, nofun⟩
  | add _ kind name declared _ ih =>
    exact layered_add ih (TypeBuilder.counted_of_declared kind name declared)

/-- How a built type came about: some clauses were read over the types declared before it. -/
theorem Built.origin {types : TypeTable Code} (built : types.Built) {t : TypeId}
    (declared : t < types.size) :
    ∃ (earlier : TypeTable Code) (kind : TypeKind) (name : String) (clauses : List (Clause Code)),
      earlier.Built ∧ earlier.Extends types ∧ earlier.size = t ∧
      (∀ base, .extends base ∈ clauses → base < t) ∧
      (TypeBuilder.ofClauses kind name clauses).fault? earlier = none ∧
      types.info t = (TypeBuilder.ofClauses kind name clauses).describe earlier := by
  induction built with
  | empty => exact absurd declared (Nat.not_lt_zero t)
  | @add types built kind name clauses above sound ih =>
    have grown := extends_add types ((TypeBuilder.ofClauses kind name clauses).describe types)
    rcases lt_or_eq_of_add declared with old | rfl
    · obtain ⟨earlier, kind, name, clauses, before, part, size, bases, made, same⟩ := ih old
      exact ⟨earlier, kind, name, clauses, before, part.trans grown, size, bases, made,
        (grown.info t old).trans same⟩
    · exact ⟨types, kind, name, clauses, built, grown, rfl, above, sound, info_add types _⟩

theorem Built.indexed {types : TypeTable Code} (built : types.Built) (t : TypeId) :
    (types.info t).Indexed := by
  by_cases declared : t < types.size
  · obtain ⟨earlier, kind, name, clauses, -, -, -, -, -, same⟩ := built.origin declared
    rw [same]
    rfl
  · rw [info_of_undeclared declared]
    rfl

end TypeTable

/-- Declaring a type in a world of built types makes one. -/
theorem World.built_declare {Host : Type} {w w' : World Code Host} {t : TypeId}
    (built : w.types.Built) (kind : TypeKind) (name : String) {clauses : List (Clause Code)}
    (declared : ∀ base, .extends base ∈ clauses → base < w.types.size)
    (done : w.declare (.ofClauses kind name clauses) = .ok (t, w')) :
    w'.types.Built ∧ t = w.types.size := by
  unfold World.declare at done
  split at done
  · cases done
  · next sound =>
    cases done
    exact ⟨.add built kind name declared sound, rfl⟩

/-! ## 3. Chains of ancestors -/

namespace TypeTable

variable {types : TypeTable Code} {t : TypeId}

theorem mem_ancestors {owner : TypeId} :
    owner ∈ types.ancestors t ↔ owner = t ∨ owner ∈ (types.info t).bases :=
  List.mem_cons

namespace Layered

variable (layered : types.Layered)
include layered

/-- The chain of an ancestor is the end of the chain. -/
theorem ancestors_suffix (declared : t < types.size) {owner : TypeId}
    (derived : owner ∈ types.ancestors t) : types.ancestors owner <:+ types.ancestors t := by
  induction t using Nat.strongRecOn with
  | ind t ih =>
    rcases mem_ancestors.1 derived with rfl | inherited
    · exact List.suffix_rfl
    rcases layered.bases t declared with none | ⟨base, earlier, chain⟩
    · simp [none] at inherited
    · rw [chain] at inherited
      have fromBase := ih base earlier (Nat.lt_trans earlier declared) inherited
      rw [ancestors.eq_1 types t, chain]
      exact fromBase.trans (List.suffix_cons t _)

theorem bases_lt (declared : t < types.size) {base : TypeId} (h : base ∈ (types.info t).bases) :
    base < t := by
  rcases layered.bases t declared with none | ⟨next, earlier, chain⟩
  · simp [none] at h
  · rw [chain] at h
    exact Nat.lt_of_le_of_lt (layered.ancestors_le (Nat.lt_trans earlier declared) h) earlier

/-- Of two types in a chain, the first one derives from the second one. -/
theorem pairwise_ancestors (declared : t < types.size) :
    (types.ancestors t).Pairwise fun owner base => base ∈ (types.info owner).bases := by
  induction t using Nat.strongRecOn with
  | ind t ih =>
    refine List.pairwise_cons.2 ⟨fun base h => h, ?_⟩
    rcases layered.bases t declared with none | ⟨base, earlier, chain⟩
    · rw [none]
      exact .nil
    · rw [chain]
      exact ih base earlier (Nat.lt_trans earlier declared)

end Layered

end TypeTable

/-! ## 4. The declarations of a chain -/

/-- A member of a type, with its position among the members of the type. -/
structure Declaration (Code : Type) where
  owner : TypeId
  index : Nat
  member : Member Code

namespace TypeTable

/-- The members that a type itself declares. -/
def ownDeclarations (types : TypeTable Code) (owner : TypeId) : List (Declaration Code) :=
  (types.info owner).members.zipIdx.map fun m => { owner, index := m.2, member := m.1 }

/-- The members of a type and its bases, in the order in which names are searched. -/
def declarations (types : TypeTable Code) (t : TypeId) : List (Declaration Code) :=
  (types.ancestors t).flatMap types.ownDeclarations

variable {types : TypeTable Code} {t : TypeId}

theorem mem_ownDeclarations {owner : TypeId} {d : Declaration Code} :
    d ∈ types.ownDeclarations owner ↔
      d.owner = owner ∧ (types.info owner).members[d.index]? = some d.member := by
  simp only [ownDeclarations, List.mem_map, List.mem_zipIdx_iff_getElem?]
  constructor
  · rintro ⟨m, here, rfl⟩
    exact ⟨rfl, here⟩
  · rintro ⟨rfl, here⟩
    exact ⟨(d.member, d.index), here, rfl⟩

theorem mem_declarations {d : Declaration Code} :
    d ∈ types.declarations t ↔
      d.owner ∈ types.ancestors t ∧ (types.info d.owner).members[d.index]? = some d.member := by
  simp only [declarations, List.mem_flatMap, mem_ownDeclarations]
  constructor
  · rintro ⟨_, derived, rfl, here⟩
    exact ⟨derived, here⟩
  · rintro ⟨derived, here⟩
    exact ⟨d.owner, derived, rfl, here⟩

/-- Only a type that exists has members. -/
theorem lt_of_mem_declarations {d : Declaration Code} (h : d ∈ types.declarations t) :
    t < types.size := by
  refine Classical.byContradiction fun undeclared => ?_
  have blank : types.info t = .blank := info_of_undeclared undeclared
  obtain ⟨derived, here⟩ := mem_declarations.1 h
  have same : d.owner = t := by simpa [ancestors, blank, TypeInfo.blank] using derived
  simp [same, blank, TypeInfo.blank] at here

theorem map_member_ownDeclarations (owner : TypeId) :
    (types.ownDeclarations owner).map (·.member) = (types.info owner).members := by
  rw [ownDeclarations, List.map_map]
  exact List.zipIdx_map_fst 0 _

theorem findSome?_flatMap {α β γ : Type} (f : β → Option γ) (g : α → List β) (l : List α) :
    (l.flatMap g).findSome? f = l.findSome? fun a => (g a).findSome? f := by
  induction l with
  | nil => rfl
  | cons a l ih =>
    rw [List.flatMap_cons, List.findSome?_append, ih, List.findSome?_cons]
    rcases (g a).findSome? f with _ | c <;> rfl

/-- A member is found by the name that it has. -/
theorem resolveMember_eq (built : types.Built) (t : TypeId) (name : String) :
    types.resolveMember t name =
      ((types.declarations t).find? (·.member.name == name)).map fun d =>
        { owner := d.owner, member := d.member } := by
  have own (owner : TypeId) : (((types.info owner).declaredMember name).map fun member =>
        ({ owner, member } : ResolvedMember Code)) =
      ((types.ownDeclarations owner).find? (·.member.name == name)).map fun d =>
        { owner := d.owner, member := d.member } := by
    rw [(built.indexed owner).declaredMember_eq, ← map_member_ownDeclarations, List.find?_map,
      Option.map_map]
    refine Option.map_congr fun d found => ?_
    obtain ⟨rfl, -⟩ := mem_ownDeclarations.1 (List.mem_of_find?_eq_some found)
    rfl
  rw [resolveMember, declarations, List.find?_flatMap, List.map_findSome?]
  exact congrArg (List.findSome? · _) (funext own)

/-- A declaration is a field of instances of this name. -/
def fieldNamed (name : String) (d : Declaration Code) : Option (Nat × ValueKind) :=
  if d.member.name = name then d.member.instanceField? else none

theorem fieldNamed_eq_some {name : String} {d : Declaration Code} {field : Nat × ValueKind} :
    fieldNamed name d = some field ↔ d.member.name = name ∧ d.member.instanceField? = some field :=
  Option.ite_none_right_eq_some

theorem instanceField?_eq (types : TypeTable Code) (t : TypeId) (name : String) :
    types.instanceField? t name = (types.declarations t).findSome? (fieldNamed name) := by
  rw [declarations, findSome?_flatMap, instanceField?]
  refine congrArg (List.findSome? · _) (funext fun owner => ?_)
  rw [TypeInfo.ownField?, ← map_member_ownDeclarations, List.findSome?_map]
  rfl

end TypeTable

/-! ## 5. The order of the search -/

/-- `d` is searched before `e`: its type derives from that of `e`, or declares both in this
order. -/
def Declaration.Before (types : TypeTable Code) (d e : Declaration Code) : Prop :=
  e.owner ∈ (types.info d.owner).bases ∨ d.owner = e.owner ∧ d.index < e.index

namespace TypeTable

variable {types : TypeTable Code} {t : TypeId}

namespace Layered

variable (layered : types.Layered)
include layered

/-- The declarations of a chain are listed in the order of the search. -/
theorem pairwise_declarations (declared : t < types.size) :
    (types.declarations t).Pairwise (Declaration.Before types) := by
  refine List.pairwise_flatMap.2 ⟨fun owner _ => ?_, ?_⟩
  · have increasing : ((types.ownDeclarations owner).map (·.index)).Pairwise (· < ·) := by
      rw [ownDeclarations, List.map_map]
      exact List.zipIdx_map_snd 0 (types.info owner).members ▸ List.pairwise_lt_range' 1
    refine (List.pairwise_map.1 increasing).imp_of_mem fun {d e} here there less => .inr ⟨?_, less⟩
    rw [(mem_ownDeclarations.1 here).1, (mem_ownDeclarations.1 there).1]
  · refine (layered.pairwise_ancestors declared).imp fun {owner base} derived d here e there => ?_
    rw [Declaration.Before, (mem_ownDeclarations.1 here).1, (mem_ownDeclarations.1 there).1]
    exact .inl derived

theorem owner_lt {d : Declaration Code} (here : d ∈ types.declarations t) :
    d.owner < types.size := by
  have declared := lt_of_mem_declarations here
  exact Nat.lt_of_le_of_lt (layered.ancestors_le declared (mem_declarations.1 here).1) declared

/-- No two declarations are searched before each other. -/
theorem before_asymm {d e : Declaration Code} (here : d ∈ types.declarations t)
    (there : e ∈ types.declarations t) (first : d.Before types e) : ¬ e.Before types d := by
  intro second
  rcases first with derived | ⟨same, less⟩
  · have above := layered.bases_lt (layered.owner_lt here) derived
    rcases second with derived' | ⟨same', -⟩
    · exact Nat.lt_asymm above (layered.bases_lt (layered.owner_lt there) derived')
    · exact Nat.ne_of_lt above same'
  · rcases second with derived' | ⟨-, less'⟩
    · exact Nat.ne_of_lt (layered.bases_lt (layered.owner_lt there) derived') same
    · exact Nat.lt_asymm less less'

/-- Of two declarations one is searched before the other. -/
theorem before_total {d e : Declaration Code} (here : d ∈ types.declarations t)
    (there : e ∈ types.declarations t) (different : d ≠ e) :
    d.Before types e ∨ e.Before types d := by
  have symmetric : Std.Symm fun d e : Declaration Code => d.Before types e ∨ e.Before types d :=
    ⟨fun _ _ => Or.symm⟩
  have ordered : (types.declarations t).Pairwise fun d e => d.Before types e ∨ e.Before types d :=
    (layered.pairwise_declarations (lt_of_mem_declarations here)).imp Or.inl
  exact ordered.forall here there different

end Layered

end TypeTable

end ObjectGraph
