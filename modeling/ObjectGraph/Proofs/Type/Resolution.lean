import Mathlib.Data.List.Forall2
import ObjectGraph.Proofs.Type.Numbering

/-!
# Which member a name stands for

A name is looked up in one table of names for each type, along the chain of ancestors. The table
knows the first of several members of one name only, but the list of members has them all. Together
the lookups find the first member of the name in the lists of the chain, put one behind the other.
So a class takes over all names of its base class but those that it declares itself, whatever sort
of member they stand for, and whoever may see it.

1. `Clause.Declares`, `members_of_declare`: the list of members of a declared type;
2. `TypeTable.chainMembers`, `Built.resolveMember_eq_find?`: the search in one list;
3. `Built.resolveMember_own`, `Built.resolveMember_inherited`: what a type declares and takes over;
4. `resolution_of_declare`: all names, after any declaration.
-/

namespace ObjectGraph

variable {Code : Type}

/-! ## 1. The members of a type -/

/-- The clause declares a member. -/
def Clause.declaresMember : Clause Code → Bool
  | .extends _ | .nonPublic => false
  | _ => true

/-- The member is the one that the clause declares, whatever slot it has got and whoever may see
it. -/
def Clause.Declares : Clause Code → Member Code → Prop
  | .extends _, _ | .nonPublic, _ => False
  | .field name kind, m | .fieldWith name kind _, m =>
    m.name = name ∧ m.isStatic = false ∧ ∃ slot, m.content = .field slot kind
  | .staticField name kind _, m =>
    m.name = name ∧ m.isStatic = true ∧ ∃ slot, m.content = .field slot kind
  | .property name isStatic getter setter, m =>
    m.name = name ∧ m.isStatic = isStatic ∧ m.content = .property getter setter
  | .method name isStatic call, m =>
    m.name = name ∧ m.isStatic = isStatic ∧ m.content = .method call

theorem Clause.Declares.hidden {clause : Clause Code} {m : Member Code}
    (declares : clause.Declares m) : clause.Declares { m with visibility := .nonPublic } := by
  cases clause <;> exact declares

theorem Clause.Declares.shiftSlot {clause : Clause Code} {m : Member Code} (offset : Nat)
    (declares : clause.Declares m) : clause.Declares (TypeBuilder.shiftSlot offset m) := by
  obtain ⟨name, visibility, isStatic, content⟩ := m
  cases clause with
  | «extends» base => exact declares
  | nonPublic => exact declares
  | field => obtain ⟨rfl, rfl, slot, rfl⟩ := declares; exact ⟨rfl, rfl, slot + offset, rfl⟩
  | fieldWith => obtain ⟨rfl, rfl, slot, rfl⟩ := declares; exact ⟨rfl, rfl, slot + offset, rfl⟩
  | staticField => obtain ⟨rfl, rfl, slot, rfl⟩ := declares; exact ⟨rfl, rfl, slot, rfl⟩
  | property => obtain ⟨rfl, rfl, rfl⟩ := declares; cases isStatic <;> exact ⟨rfl, rfl, rfl⟩
  | method => obtain ⟨rfl, rfl, rfl⟩ := declares; cases isStatic <;> exact ⟨rfl, rfl, rfl⟩

theorem declares_hideLast {clauses : List (Clause Code)} {members : List (Member Code)}
    (declare : List.Forall₂ Clause.Declares clauses members) :
    List.Forall₂ Clause.Declares clauses (hideLast members) := by
  induction declare with
  | nil => exact .nil
  | @cons clause m clauses members here behind ih =>
    cases behind with
    | nil => exact .cons here.hidden .nil
    | cons next behind => exact .cons here ih

/-- The members of a declaration are those that its clauses declare, in the same order. -/
theorem TypeBuilder.members_ofClauses (kind : TypeKind) (name : String)
    (clauses : List (Clause Code)) :
    List.Forall₂ Clause.Declares (clauses.filter Clause.declaresMember)
      (ofClauses kind name clauses).members := by
  induction clauses using List.reverseRecOn with
  | nil => exact .nil
  | append_singleton clauses clause ih =>
    have added {m : Member Code} (declares : clause.Declares m) :
        List.Forall₂ Clause.Declares (clauses.filter Clause.declaresMember ++ [clause])
          ((ofClauses kind name clauses).members ++ [m]) :=
      List.rel_append ih (.cons declares .nil)
    rw [ofClauses_concat, List.filter_append]
    cases clause with
    | «extends» base => simpa [Clause.declaresMember, declare] using ih
    | nonPublic => simpa [Clause.declaresMember, declare] using declares_hideLast ih
    | field => exact added ⟨rfl, rfl, _, rfl⟩
    | fieldWith => exact added ⟨rfl, rfl, _, rfl⟩
    | staticField => exact added ⟨rfl, rfl, _, rfl⟩
    | property => exact added ⟨rfl, rfl, rfl⟩
    | method => exact added ⟨rfl, rfl, rfl⟩

/-- The members of a declared type are those of its clauses, and its base class is the last one that
they name. -/
theorem World.members_of_declare {Host : Type} {w w' : World Code Host} {t : TypeId}
    {kind : TypeKind} {name : String} {clauses : List (Clause Code)}
    (done : w.declare (.ofClauses kind name clauses) = .ok (t, w')) :
    List.Forall₂ Clause.Declares (clauses.filter Clause.declaresMember)
        (w'.types.info t).members ∧
      w'.types.base? t = lastBase? clauses := by
  unfold World.declare at done
  split at done
  · cases done
  · cases done
    rw [TypeTable.base?, TypeTable.info_add]
    refine ⟨?_, ?_⟩
    · refine List.forall₂_map_right_iff.2 ?_
      exact (TypeBuilder.members_ofClauses kind name clauses).imp fun _ _ declares =>
        declares.shiftSlot _
    · rw [TypeBuilder.ofClauses_eq]
      cases lastBase? clauses <;> rfl

namespace TypeTable

variable {types : TypeTable Code} {t : TypeId}

/-! ## 2. The members of a chain -/

/-- The members that a type itself declares. -/
def ownMembers (types : TypeTable Code) (owner : TypeId) : List (ResolvedMember Code) :=
  (types.info owner).members.map fun member => { owner, member }

/-- The lists of members of a type and its ancestors, nearest first, put one behind the other. -/
def chainMembers (types : TypeTable Code) (t : TypeId) : List (ResolvedMember Code) :=
  (types.ancestors t).flatMap types.ownMembers

theorem mem_chainMembers {found : ResolvedMember Code} :
    found ∈ types.chainMembers t ↔
      found.owner ∈ types.ancestors t ∧ found.member ∈ (types.info found.owner).members := by
  simp only [chainMembers, ownMembers, List.mem_flatMap, List.mem_map]
  constructor
  · rintro ⟨_, derived, member, declared, rfl⟩
    exact ⟨derived, declared⟩
  · rintro ⟨derived, declared⟩
    exact ⟨found.owner, derived, found.member, declared, rfl⟩

/-- They are the declarations of the chain. -/
theorem chainMembers_eq_map (types : TypeTable Code) (t : TypeId) :
    types.chainMembers t =
      (types.declarations t).map fun d => { owner := d.owner, member := d.member } := by
  rw [chainMembers, declarations, List.map_flatMap]
  refine List.flatMap_congr fun owner _ => ?_
  rw [ownMembers, ← map_member_ownDeclarations, List.map_map]
  refine List.map_congr_left fun d here => ?_
  rw [← (mem_ownDeclarations.1 here).1]
  rfl

namespace Built

variable (built : types.Built)
include built

/-- The chain of a type is the type followed by the chain of its base class. -/
theorem ancestors_eq_cons (t : TypeId) :
    types.ancestors t = t :: (types.base? t).elim [] types.ancestors := by
  rw [ancestors, base?]
  by_cases declared : t < types.size
  · rcases built.layered.bases t declared with none | ⟨base, -, chain⟩
    · rw [none]
      rfl
    · rw [chain]
      rfl
  · rw [info_of_undeclared declared]
    rfl

theorem chainMembers_eq_append (t : TypeId) :
    types.chainMembers t =
      types.ownMembers t ++ (types.base? t).elim [] types.chainMembers := by
  rw [chainMembers, built.ancestors_eq_cons t, List.flatMap_cons]
  cases types.base? t <;> rfl

/-- A name stands for the first member of that name in the lists of the chain. -/
theorem resolveMember_eq_find? (t : TypeId) (name : String) :
    types.resolveMember t name = (types.chainMembers t).find? (·.member.name == name) := by
  rw [resolveMember_eq built, chainMembers_eq_map, List.find?_map]
  rfl

/-- A name stands for nothing if and only if no type of the chain declares a member of that name. -/
theorem resolveMember_eq_none_iff (t : TypeId) (name : String) :
    types.resolveMember t name = none ↔
      ∀ owner ∈ types.ancestors t, ∀ m ∈ (types.info owner).members, m.name ≠ name := by
  rw [built.resolveMember_eq_find?, List.find?_eq_none]
  simp only [mem_chainMembers, beq_iff_eq]
  constructor
  · intro unnamed owner derived m declared
    exact unnamed ⟨owner, m⟩ ⟨derived, declared⟩
  · rintro unnamed ⟨owner, m⟩ ⟨derived, declared⟩
    exact unnamed owner derived m declared

/-! ## 3. Own and inherited names -/

/-- If a type declares a name itself, then the name stands for its own first member of that name. -/
theorem resolveMember_own {name : String} {m : Member Code}
    (first : (types.info t).members.find? (·.name == name) = some m) :
    types.resolveMember t name = some { owner := t, member := m } := by
  have own : (types.ownMembers t).find? (·.member.name == name) =
      some { owner := t, member := m } := by
    rw [ownMembers, List.find?_map, Function.comp_def, first]
    rfl
  rw [built.resolveMember_eq_find?, built.chainMembers_eq_append, List.find?_append, own]
  rfl

/-- All other names are those of the base class. -/
theorem resolveMember_inherited {base : TypeId} (derives : types.base? t = some base)
    {name : String} (undeclared : ∀ m ∈ (types.info t).members, m.name ≠ name) :
    types.resolveMember t name = types.resolveMember base name := by
  have own : (types.ownMembers t).find? (·.member.name == name) = none := by
    rw [ownMembers, List.find?_map, Option.map_eq_none_iff, List.find?_eq_none]
    intro m declared
    simpa using undeclared m declared
  rw [built.resolveMember_eq_find?, built.resolveMember_eq_find?, built.chainMembers_eq_append,
    List.find?_append, own, derives]
  rfl

end Built

end TypeTable

/-! ## 4. All names -/

/-- What names stand for once a type has been declared, by whatever clauses in whatever order.

The list of members of the new type has one member for each clause that declares one, in the order
of the clauses and under their names. For this type and all types before it, and for every name:

* the chain of ancestors leads from each class to its base class;
* the name stands for the first member of that name in the lists of the chain, and for nothing if
  and only if there is none;
* if the type does not declare the name, then it stands for what it stands for in the base class;
* if the type declares the name, then it stands for the first member of that name in the type
  itself, whatever its base classes declare. -/
theorem resolution_of_declare {Host : Type} {w w' : World Code Host} (built : w.types.Built)
    {kind : TypeKind} {typeName : String} {clauses : List (Clause Code)} {t : TypeId}
    (declared : ∀ base, .extends base ∈ clauses → base < w.types.size)
    (done : w.declare (.ofClauses kind typeName clauses) = .ok (t, w')) :
    List.Forall₂ Clause.Declares (clauses.filter Clause.declaresMember)
      (w'.types.info t).members ∧
    w'.types.base? t = lastBase? clauses ∧
    ∀ s name,
      w'.types.ancestors s = s :: (w'.types.base? s).elim [] w'.types.ancestors ∧
      w'.types.resolveMember s name =
        (w'.types.chainMembers s).find? (·.member.name == name) ∧
      (w'.types.resolveMember s name = none ↔
        ∀ owner ∈ w'.types.ancestors s, ∀ m ∈ (w'.types.info owner).members, m.name ≠ name) ∧
      (∀ base, w'.types.base? s = some base →
        (∀ m ∈ (w'.types.info s).members, m.name ≠ name) →
        w'.types.resolveMember s name = w'.types.resolveMember base name) ∧
      (∀ m, (w'.types.info s).members.find? (·.name == name) = some m →
        w'.types.resolveMember s name = some { owner := s, member := m }) := by
  obtain ⟨built', -⟩ := World.built_declare built kind typeName declared done
  obtain ⟨members, base⟩ := World.members_of_declare done
  refine ⟨members, base, fun s name => ?_⟩
  exact ⟨built'.ancestors_eq_cons s, built'.resolveMember_eq_find? s name,
    built'.resolveMember_eq_none_iff s name,
    fun _ derives undeclared => built'.resolveMember_inherited derives undeclared,
    fun _ first => built'.resolveMember_own first⟩

/-- A class that declares a name twice, and one that derives from it and hides the name. -/
def squad : World Unit Unit :=
  let types : TypeTable Unit := TypeTable.add {} ((TypeBuilder.ofClauses .reference "Unit"
    [.field "hp" .int, .method "hp" false (), .staticField "count" .int (.int 0)]).describe {})
  { types := types.add ((TypeBuilder.ofClauses .reference "Hero"
      [.extends 0, .property "hp" false () none, .nonPublic, .field "name" .str]).describe types)
    statics := #[{ cells := #[.int 0] }, {}]
    host := () }

theorem built_squad : squad.types.Built :=
  .add (.add .empty .reference "Unit" (by simp) rfl) .reference "Hero" (by simp; decide) rfl

/-- A class that declares a name twice which its base class has as well. -/
def bossClauses : List (Clause Unit) :=
  [.field "name" .any, .extends 1, .method "name" true ()]

/-- The two classes and the one that the clauses declare. -/
def withBoss : World Unit Unit :=
  { squad with
    types := squad.types.add ((TypeBuilder.ofClauses .reference "Boss" bossClauses).describe
      squad.types)
    statics := squad.statics.push {} }

theorem resolution_of_boss :
    squad.declare (.ofClauses .reference "Boss" bossClauses) = .ok (2, withBoss) ∧
      (withBoss.types.info 2).members.map (·.name) = ["name", "name"] ∧
      withBoss.types.resolveMember 2 "name" = some
        ⟨2, { name := "name", visibility := .pub, isStatic := false, content := .field 2 .any }⟩ ∧
      withBoss.types.resolveMember 2 "hp" = withBoss.types.resolveMember 1 "hp" ∧
      withBoss.types.resolveMember 1 "hp" = some
        ⟨1, { name := "hp", visibility := .nonPublic, isStatic := false,
              content := .property () none }⟩ ∧
      withBoss.types.resolveMember 2 "mp" = none := by
  have declared : ∀ base, .extends base ∈ bossClauses → base < squad.types.size := by
    intro base named
    obtain rfl : base = 1 := by simpa [bossClauses] using named
    decide
  have done : squad.declare (.ofClauses .reference "Boss" bossClauses) = .ok (2, withBoss) := rfl
  obtain ⟨-, -, resolution⟩ := resolution_of_declare built_squad declared done
  obtain ⟨-, -, -, -, own⟩ := resolution 2 "name"
  obtain ⟨-, -, -, inherited, -⟩ := resolution 2 "hp"
  obtain ⟨-, -, -, -, hidden⟩ := resolution 1 "hp"
  obtain ⟨-, -, missing, -, -⟩ := resolution 2 "mp"
  refine ⟨done, rfl, own _ rfl, inherited 1 rfl ?_, hidden _ rfl, missing.2 ?_⟩
  · decide
  · decide

end ObjectGraph
