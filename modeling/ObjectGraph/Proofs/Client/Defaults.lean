import ObjectGraph.Proofs.Client.Instances
import ObjectGraph.Proofs.Export.Unfolding
import ObjectGraph.Proofs.Type.Numbering

/-!
# Instances of defaults

If no field begins with the result of code, a new instance depends on the declared types alone. A
field of a struct kind begins with a new instance of the type that the kind names, whose fields may
begin in this way themselves. Kinds name types that are declared earlier, so this comes to an end.

That the type in a struct kind is a value type is checked nowhere. If it is a class, the field
begins with an object, which the field itself refuses. All other fields accept what they begin with,
in the instance and in the structs in it, however deep.

1. `TypeTable.Defaulted`, `Defaulted.begins`: types whose fields begin with defaults;
2. `Fills`, `Instantiates`: executions that come to an end;
3. `Defaulted.exists_instantiates`, `Instantiates.outcome`: there is one, and it is the one that
   runs;
4. `World.BeginsWith`, `World.Fresh`: what is in the slots of a new instance;
5. `newInstance_fresh`: all of it together.
-/

namespace ObjectGraph

open ObjectGraph.Action Client

variable {Code Host : Type}

/-! ## 1. Types whose fields begin with defaults -/

/-- The first value that a clause gives to a field of instances. -/
def Clause.init? : Clause Code → Option (FieldInit Code)
  | .field _ kind => some (.default kind)
  | .fieldWith _ _ code => some (.computed code)
  | _ => none

/-- The first values of the fields are those of the clauses, in the same order. -/
theorem TypeBuilder.inits_ofClauses (kind : TypeKind) (name : String)
    (clauses : List (Clause Code)) :
    (ofClauses kind name clauses).inits = clauses.filterMap Clause.init? := by
  induction clauses using List.reverseRecOn with
  | nil => rfl
  | append_singleton clauses clause ih =>
    rw [ofClauses_concat, List.filterMap_append, ← ih]
    cases clause <;> simp [declare, addField, addMember, Clause.init?]

/-- A clause of a declaration over `n` types. A field of instances begins with the default of its
kind, which may be any kind over these types. -/
def Clause.Defaulted (n : Nat) : Clause Code → Prop
  | .extends base => base < n
  | .field _ kind => ∀ s, kind.type? = some s → s < n
  | .fieldWith .. => False
  | _ => True

namespace TypeTable

/-- A table of built types all of whose fields of instances begin with defaults. -/
inductive Defaulted : TypeTable Code → Prop
  | empty : Defaulted {}
  | add {types : TypeTable Code} (before : Defaulted types) (kind : TypeKind) (name : String)
      {clauses : List (Clause Code)}
      (defaulted : ∀ clause ∈ clauses, clause.Defaulted types.size)
      (sound : (TypeBuilder.ofClauses kind name clauses).fault? types = none) :
      Defaulted (types.add ((TypeBuilder.ofClauses kind name clauses).describe types))

variable {types : TypeTable Code} {t : TypeId}

theorem Defaulted.built (defaulted : types.Defaulted) : types.Built := by
  induction defaulted with
  | empty => exact .empty
  | add _ kind name defaulted sound ih =>
    exact .add ih kind name (fun base named => defaulted _ named) sound

end TypeTable

/-- A field of an instance of `t` begins with the default of its kind, and if this is an instance,
then it is one of an earlier type. -/
def FieldInit.Earlier (t : TypeId) : FieldInit Code → Prop
  | .default kind => ∀ s, kind = .struct s → s < t
  | .computed _ => False

theorem FieldInit.Earlier.mono {s t : TypeId} {init : FieldInit Code} (h : init.Earlier s)
    (below : s ≤ t) : init.Earlier t := by
  cases init with
  | default kind => exact fun r struct => Nat.lt_of_lt_of_le (h r struct) below
  | computed code => exact h

theorem Clause.Defaulted.earlier {n : Nat} {clause : Clause Code} {init : FieldInit Code}
    (defaulted : clause.Defaulted n) (begun : clause.init? = some init) : init.Earlier n := by
  cases clause with
  | field name kind =>
    cases begun
    rintro s rfl
    exact defaulted s rfl
  | fieldWith => cases defaulted
  | _ => cases begun

namespace TypeTable

variable {types : TypeTable Code} {t : TypeId}

theorem Defaulted.begins (defaulted : types.Defaulted) (t : TypeId) :
    ∀ init ∈ (types.info t).inits, init.Earlier t := by
  induction defaulted generalizing t with
  | empty => exact nofun
  | @add types before kind name clauses defaulted sound ih =>
    intro init here
    have grown := extends_add types ((TypeBuilder.ofClauses kind name clauses).describe types)
    by_cases declared :
      t < (types.add ((TypeBuilder.ofClauses kind name clauses).describe types)).size
    case neg =>
      rw [info_of_undeclared declared] at here
      cases here
    case pos =>
      rcases lt_or_eq_of_add declared with old | rfl
      · rw [grown.info t old] at here
        exact ih t init here
      rw [inits_describe, List.mem_append] at here
      rcases here with inherited | own
      · rcases found : (TypeBuilder.ofClauses kind name clauses).base with _ | base
        · simp [found] at inherited
        · rw [found] at inherited
          have counted := TypeBuilder.counted_of_declared kind name
            fun base named => defaulted _ named
          exact (ih base init inherited).mono (Nat.le_of_lt (counted.base base found))
      · rw [TypeBuilder.inits_ofClauses, List.mem_filterMap] at own
        obtain ⟨clause, named, begun⟩ := own
        exact (defaulted clause named).earlier begun

/-- The fields of a type begin with the defaults of the kinds of the slots. -/
theorem Defaulted.inits_eq (defaulted : types.Defaulted) (declared : t < types.size) :
    (types.info t).inits = (types.fieldKinds t).map .default := by
  have suits := defaulted.built.layered.inits t declared
  have begins := defaulted.begins t
  generalize (types.info t).inits = inits, types.fieldKinds t = kinds at suits begins
  induction suits with
  | nil => rfl
  | @cons init kind inits kinds first _ ih =>
    obtain ⟨first', later⟩ := List.forall_mem_cons.1 begins
    cases init with
    | default k => rw [ih later, List.map_cons, first k rfl]
    | computed code => cases first'

end TypeTable

/-! ## 2. Executions -/

/-- The instance of a type that has the fields: a struct, or an object at the next address. -/
def World.instantiate (w : World Code Host) (t : TypeId) (fields : List Value) :
    Value × World Code Host :=
  match w.types.kind t with
  | .value => (.struct t fields, w)
  | .reference => (.object w.entities.size, (w.allocate (.object t) fields.toArray).2)

/-- In the world `w`, the fields of an instance of `t` are given their first values one by one, and
then the world is `w'`. For a field of a struct kind an instance is made first, which takes an
execution of its own; whether its type is an earlier one is not asked. -/
inductive Fills (beh : Behaviour Code Host) :
    TypeId → World Code Host → List (FieldInit Code) → List Value → World Code Host → Prop
  | nil {t : TypeId} {w : World Code Host} : Fills beh t w [] [] w
  | datum {t : TypeId} {w w' : World Code Host} {kind : ValueKind} {datum : Native}
      {inits : List (FieldInit Code)} {fields : List Value} :
      (∀ s, kind ≠ .struct s) → initialValue beh t (.default kind) = pure (.ofNative datum) →
      Fills beh t w inits fields w' →
      Fills beh t w (.default kind :: inits) (.ofNative datum :: fields) w'
  | struct {t s : TypeId} {w w₁ w' : World Code Host} {inner : List Value}
      {inits : List (FieldInit Code)} {fields : List Value} :
      Fills beh s w (w.types.info s).inits inner w₁ →
      Fills beh t (w₁.instantiate s inner).2 inits fields w' →
      Fills beh t w (.default (.struct s) :: inits) ((w₁.instantiate s inner).1 :: fields) w'

/-- An execution makes the instance `v` of `t` in `w` and leaves `w'`. -/
def Instantiates (beh : Behaviour Code Host) (w : World Code Host) (t : TypeId) (v : Value)
    (w' : World Code Host) : Prop :=
  ∃ fields w₁, Fills beh t w (w.types.info t).inits fields w₁ ∧
    w₁.instantiate t fields = (v, w')

theorem World.types_instantiate (w : World Code Host) (t : TypeId) (fields : List Value) :
    (w.instantiate t fields).2.types = w.types := by
  unfold instantiate
  split <;> rfl

theorem World.extends_instantiate (w : World Code Host) (t : TypeId) (fields : List Value) :
    w.Extends (w.instantiate t fields).2 := by
  unfold instantiate
  split
  · exact .refl w
  · exact extends_allocate w (.object t) fields.toArray

/-- An instance is of its type, also when more has been created. -/
theorem World.typeOf?_instantiate {w w' : World Code Host} {t : TypeId} {fields : List Value}
    (grown : (w.instantiate t fields).2.Extends w') :
    w'.typeOf? (w.instantiate t fields).1 = some t := by
  unfold instantiate at grown ⊢
  split at grown
  · rfl
  · refine typeOf?_object_eq_some.2 (grown.shapes _ _ ?_)
    exact (shape?_allocate w (.object t) fields.toArray _).trans (if_pos rfl)

theorem World.slots_instantiate (w : World Code Host) (t : TypeId) (fields : List Value) :
    (w.instantiate t fields).2.slots (w.instantiate t fields).1 = fields.toArray := by
  unfold instantiate
  split
  · rfl
  · exact cells_allocate w (.object t) fields.toArray

namespace Fills

variable {beh : Behaviour Code Host} {t : TypeId} {w w' : World Code Host}
  {inits : List (FieldInit Code)} {fields : List Value}

/-- An execution declares no types. -/
theorem types_eq (fills : Fills beh t w inits fields w') : w'.types = w.types := by
  induction fills with
  | nil => rfl
  | datum _ _ _ ih => exact ih
  | struct _ _ inside behind => rw [behind, World.types_instantiate, inside]

/-- An execution creates objects only. -/
theorem grows (fills : Fills beh t w inits fields w') : w.Extends w' := by
  induction fills with
  | @nil t w => exact .refl w
  | datum _ _ _ ih => exact ih
  | struct _ _ inside behind =>
    exact (inside.trans (World.extends_instantiate ..)).trans behind

end Fills

/-! ## 3. The execution that runs -/

/-- If instances of the earlier types can be made, then fields can be filled. -/
theorem exists_fills {beh : Behaviour Code Host} {types : TypeTable Code} {t : TypeId}
    (instances : ∀ s < t, ∀ w : World Code Host, w.types = types →
      ∃ fields w', Fills beh s w (types.info s).inits fields w')
    {inits : List (FieldInit Code)} (begins : ∀ init ∈ inits, init.Earlier t)
    {w : World Code Host} (same : w.types = types) :
    ∃ fields w', Fills beh t w inits fields w' := by
  induction inits generalizing w with
  | nil => exact ⟨[], w, .nil⟩
  | cons init inits ih =>
    obtain ⟨first, later⟩ := List.forall_mem_cons.1 begins
    rcases init with kind | code
    case computed => cases first
    by_cases struct : ∃ s, kind = .struct s
    case neg =>
      obtain ⟨datum, begun, -⟩ := initialValue_default beh t (not_exists.1 struct)
      obtain ⟨fields, w', rest⟩ := ih later same
      exact ⟨_, w', .datum (not_exists.1 struct) begun rest⟩
    case pos =>
      obtain ⟨s, rfl⟩ := struct
      obtain ⟨inner, w₁, inside⟩ := instances s (first s rfl) w same
      have same' : (w₁.instantiate s inner).2.types = types := by
        rw [World.types_instantiate, inside.types_eq, same]
      obtain ⟨fields, w', rest⟩ := ih later same'
      exact ⟨_, w', .struct (same ▸ inside) rest⟩

/-- Making an instance comes to an end. -/
theorem TypeTable.Defaulted.exists_instantiates {w : World Code Host}
    (defaulted : w.types.Defaulted) (beh : Behaviour Code Host) (t : TypeId) :
    ∃ v w', Instantiates beh w t v w' := by
  have fills (t : TypeId) (w₀ : World Code Host) (same : w₀.types = w.types) :
      ∃ fields w', Fills beh t w₀ (w.types.info t).inits fields w' := by
    induction t using Nat.strongRecOn generalizing w₀ with
    | ind t ih => exact exists_fills ih (defaulted.begins t) same
  obtain ⟨fields, w₁, ended⟩ := fills t w rfl
  exact ⟨_, _, fields, w₁, ended, rfl⟩

/-- A new instance is made over the first values of its fields. -/
theorem outcome_newInstance {beh : Behaviour Code Host} {w w₁ : World Code Host} {t : TypeId}
    {fields : List Value}
    (filled : ((w.types.info t).inits.mapM (initialValue beh t)).outcome w = (fields, w₁))
    (same : w₁.types = w.types) : (newInstance beh t).outcome w = w₁.instantiate t fields := by
  rw [World.instantiate, same]
  rcases kind : w.types.kind t with _ | _
  · rw [outcome_newInstance_reference beh kind, filled]
  · rw [outcome_newInstance_value beh kind, filled]

/-- An execution is the one that runs, as no field asks for an instance of a later type. -/
theorem Fills.outcome {beh : Behaviour Code Host} {t : TypeId} {w w' : World Code Host}
    {inits : List (FieldInit Code)} {fields : List Value} (fills : Fills beh t w inits fields w')
    (below : ∀ s, ∀ init ∈ (w.types.info s).inits, init.Earlier s)
    (begins : ∀ init ∈ inits, init.Earlier t) :
    (inits.mapM (initialValue beh t)).outcome w = (fields, w') := by
  induction fills with
  | nil => rfl
  | datum _ begun _ ih =>
    obtain ⟨-, later⟩ := List.forall_mem_cons.1 begins
    rw [List.mapM_cons, begun, outcome_bind, outcome_pure, outcome_bind, ih below later]
    rfl
  | @struct t s w w₁ w' inner inits fields inside rest inner_ih ih =>
    obtain ⟨first, later⟩ := List.forall_mem_cons.1 begins
    have made : (newInstance beh s).outcome w = w₁.instantiate s inner :=
      outcome_newInstance (inner_ih below (below s)) inside.types_eq
    have same : (w₁.instantiate s inner).2.types = w.types :=
      (World.types_instantiate ..).trans inside.types_eq
    rw [List.mapM_cons, initialValue, if_pos (first s rfl), outcome_bind, made, outcome_bind,
      ih (same ▸ below) later]
    rfl

theorem Instantiates.outcome {beh : Behaviour Code Host} {w w' : World Code Host} {t : TypeId}
    {v : Value} (makes : Instantiates beh w t v w')
    (below : ∀ s, ∀ init ∈ (w.types.info s).inits, init.Earlier s) :
    (newInstance beh t).outcome w = (v, w') := by
  obtain ⟨fields, w₁, fills, made⟩ := makes
  rw [outcome_newInstance (fills.outcome below (below t)) fills.types_eq, made]

/-! ## 4. The slots of a new instance -/

namespace World

/-- What a field of the kind begins with: a value that the field accepts, unless its kind is a
struct kind over a class. In a field of a struct kind it is an instance of the type, also over a
class. -/
structure BeginsWith (w : World Code Host) (kind : ValueKind) (v : Value) : Prop where
  accepts : w.accepts kind v = true ↔ w.types.HasDefault kind
  typed : ∀ s, kind = .struct s → w.typeOf? v = some s

/-- A new object or struct. There is a value in each slot, with which the field that owns the slot
begins, and the structs in the slots are new as well. -/
inductive Fresh (w : World Code Host) : Value → Prop
  | of_slots {v : Value} {t : TypeId} (typed : w.typeOf? v = some t)
      (size : (w.slots v).size = (w.types.info t).fieldSlots)
      (owned : ∀ slot < (w.types.info t).fieldSlots, ∃ owner i kind u,
        w.types.Owns t slot owner i kind ∧ (w.slots v)[slot]? = some u ∧ w.BeginsWith kind u)
      (nested : ∀ s inner, .struct s inner ∈ w.slots v → w.Fresh (.struct s inner)) : w.Fresh v

/-- The first value over a type is an instance of it, and is accepted if it is a struct. -/
theorem beginsWith_instantiate {w w' : World Code Host} {s : TypeId} {fields : List Value}
    (grown : (w.instantiate s fields).2.Extends w') (same : w'.types = w.types) :
    w'.BeginsWith (.struct s) (w.instantiate s fields).1 := by
  refine ⟨?_, ?_⟩
  · rw [TypeTable.HasDefault, same]
    unfold instantiate
    rcases kind : w.types.kind s with _ | _
    · simp [World.accepts, TypeTable.isValueType, kind]
    · simp [World.accepts, TypeTable.isValueType, kind]
  · rintro _ ⟨⟩
    exact typeOf?_instantiate grown

/-- A datum that a field begins with is accepted. -/
theorem beginsWith_datum {w : World Code Host} {beh : Behaviour Code Host} {t : TypeId}
    {kind : ValueKind} {datum : Native} (plain : ∀ s, kind ≠ .struct s)
    (begun : initialValue beh t (.default kind) = pure (.ofNative datum)) :
    w.BeginsWith kind (.ofNative datum) := by
  obtain ⟨datum', begun', accepted⟩ := initialValue_default beh t plain
  have same : Value.ofNative datum' = .ofNative datum :=
    congrArg (fun first => (first.outcome w).1) (begun'.symm.trans begun)
  refine ⟨iff_of_true (same ▸ accepted w) fun s struct => ?_, fun s struct => ?_⟩
  · exact absurd struct (plain s)
  · exact absurd struct (plain s)

theorem of_instantiate_eq_struct {w : World Code Host} {s t : TypeId} {fields inner : List Value}
    (h : (w.instantiate t fields).1 = .struct s inner) :
    w.types.kind t = .value ∧ s = t ∧ inner = fields := by
  unfold instantiate at h
  split at h
  · next value =>
    cases h
    exact ⟨value, rfl, rfl⟩
  · cases h

/-- An instance is new if its fields begin with the right values, slot by slot. -/
theorem fresh_of_fields {w : World Code Host} (built : w.types.Built) {v : Value} {t : TypeId}
    {fields : List Value} (declared : t < w.types.size) (typed : w.typeOf? v = some t)
    (slots : w.slots v = fields.toArray)
    (begin_ : List.Forall₂ w.BeginsWith (w.types.fieldKinds t) fields)
    (nested : ∀ s inner, .struct s inner ∈ fields → w.Fresh (.struct s inner)) : w.Fresh v := by
  have layered := built.layered
  have length : fields.length = (w.types.info t).fieldSlots := by
    rw [← begin_.length_eq, TypeTable.fieldKinds, List.length_map,
      layered.length_instanceSlots declared]
  refine .of_slots typed ?_ (fun slot inside => ?_) fun s inner here => ?_
  · rw [slots, List.size_toArray, length]
  · have held : slot < fields.length := length ▸ inside
    have listed : slot < (w.types.fieldKinds t).length := begin_.length_eq ▸ held
    obtain ⟨owner, i, owns⟩ :=
      layered.exists_owns_of_kind declared (List.getElem?_eq_getElem listed)
    refine ⟨owner, i, _, fields[slot], owns, by simp [slots, held], ?_⟩
    exact (List.forall₂_iff_get.1 begin_).2 slot listed held
  · exact nested s inner (by simpa [slots] using here)

end World

/-- What an execution leaves in the fields, as it is seen from any later world. -/
theorem Fills.fresh {beh : Behaviour Code Host} {t : TypeId} {w w' : World Code Host}
    {inits : List (FieldInit Code)} {fields : List Value} (fills : Fills beh t w inits fields w')
    {last : World Code Host} (defaulted : last.types.Defaulted) (grown : w'.Extends last)
    (same : last.types = w.types) {kinds : List ValueKind} (begins : inits = kinds.map .default) :
    List.Forall₂ last.BeginsWith kinds fields ∧
      ∀ s inner, .struct s inner ∈ fields → last.Fresh (.struct s inner) := by
  induction fills generalizing kinds with
  | nil =>
    obtain rfl := List.map_eq_nil_iff.1 begins.symm
    exact ⟨.nil, nofun⟩
  | @datum t w w' kind datum inits fields plain begun _ ih =>
    obtain ⟨k, kinds, rfl, first, rest⟩ := List.map_eq_cons_iff.1 begins.symm
    cases first
    obtain ⟨begin_, nested⟩ := ih grown same rest.symm
    refine ⟨.cons (World.beginsWith_datum plain begun) begin_, fun s inner here => ?_⟩
    rcases List.mem_cons.1 here with first | later
    · cases datum <;> cases first
    · exact nested s inner later
  | @struct t s w w₁ w' inner inits fields inside rest inner_ih ih =>
    obtain ⟨k, kinds, rfl, first, begins'⟩ := List.map_eq_cons_iff.1 begins.symm
    cases first
    have same₁ : last.types = w₁.types := same.trans inside.types_eq.symm
    have same₂ : last.types = (w₁.instantiate s inner).2.types :=
      same₁.trans (World.types_instantiate ..).symm
    have grown₂ : (w₁.instantiate s inner).2.Extends last := rest.grows.trans grown
    obtain ⟨begin_, nested⟩ := ih grown same₂ begins'.symm
    refine ⟨.cons (World.beginsWith_instantiate grown₂ same₁) begin_, fun s' inner' here => ?_⟩
    rcases List.mem_cons.1 here with first | later
    · -- A struct in the field is of the type `s`, which is declared as it is a value type.
      obtain ⟨value, rfl, rfl⟩ := World.of_instantiate_eq_struct first.symm
      have declared : s' < last.types.size := by
        refine TypeTable.isValueType_lt ?_
        rw [TypeTable.isValueType, same₁, value]
        rfl
      have begins : (w.types.info s').inits = (last.types.fieldKinds s').map .default := by
        rw [← same]
        exact defaulted.inits_eq declared
      obtain ⟨inner_begin, inner_nested⟩ :=
        inner_ih ((World.extends_instantiate ..).trans grown₂) same begins
      exact World.fresh_of_fields defaulted.built declared rfl rfl inner_begin inner_nested
    · exact nested s' inner' later

/-! ## 5. New instances -/

/-- A new instance of a type in a table of types whose fields all begin with defaults.

* Making it comes to an end, whatever structs there are in structs, and declares no type.
* It is of its type, and has a value in each slot.
* A field of the instance, or of any struct in it, accepts the value in its slot if and only if its
  kind is not a struct kind over a class. A field of a struct kind, also over a class, begins with
  an instance of the type that the kind names. -/
theorem newInstance_fresh {w : World Code Host} (defaulted : w.types.Defaulted)
    (beh : Behaviour Code Host) {t : TypeId} (declared : t < w.types.size) :
    ∃ v w', Instantiates beh w t v w' ∧ (newInstance beh t).outcome w = (v, w') ∧
      w'.types = w.types ∧ w'.typeOf? v = some t ∧ w'.Fresh v := by
  obtain ⟨v, w', makes⟩ := defaulted.exists_instantiates beh t
  refine ⟨v, w', makes, makes.outcome defaulted.begins, ?_⟩
  obtain ⟨fields, w₁, fills, made⟩ := makes
  obtain ⟨rfl, rfl⟩ : (w₁.instantiate t fields).1 = v ∧ (w₁.instantiate t fields).2 = w' :=
    Prod.ext_iff.1 made
  have same : (w₁.instantiate t fields).2.types = w.types :=
    (World.types_instantiate ..).trans fills.types_eq
  have typed := World.typeOf?_instantiate (.refl (w₁.instantiate t fields).2)
  have begins : (w.types.info t).inits =
      ((w₁.instantiate t fields).2.types.fieldKinds t).map .default := by
    rw [same]
    exact defaulted.inits_eq declared
  rw [← same] at defaulted declared
  obtain ⟨begin_, nested⟩ := fills.fresh defaulted (World.extends_instantiate ..) same begins
  exact ⟨same, typed, World.fresh_of_fields defaulted.built declared typed
    (World.slots_instantiate ..) begin_ nested⟩

/-- Structs in structs, and a class whose fields follow those of its base class. One of its fields
is of a struct kind over that base class. -/
def orchard : World Empty Unit :=
  let point : TypeBuilder Empty := .ofClauses .value "Point" [.field "x" .float, .field "y" .float]
  let area : TypeBuilder Empty :=
    .ofClauses .value "Area" [.field "corner" (.struct 0), .field "label" .str]
  let plot : TypeBuilder Empty := .ofClauses .reference "Plot" [.field "area" (.struct 1)]
  let tree : TypeBuilder Empty :=
    .ofClauses .reference "Tree" [.extends 2, .field "plot" (.struct 2), .field "next" (.object 2)]
  let types : TypeTable Empty := TypeTable.add {} (point.describe {})
  let types := types.add (area.describe types)
  let types := types.add (plot.describe types)
  { types := types.add (tree.describe types)
    statics := #[{}, {}, {}, {}]
    host := () }

theorem defaulted_orchard : orchard.types.Defaulted := by
  refine .add (.add (.add (.add .empty .value "Point" ?_ rfl) .value "Area" ?_ rfl)
    .reference "Plot" ?_ rfl) .reference "Tree" ?_ rfl
  all_goals simp [Clause.Defaulted, Kind.type?, TypeTable.size, TypeTable.add]

theorem newInstance_fresh_tree :
    orchard.types.fieldKinds 3 = [.struct 1, .struct 2, .object 2] ∧
      orchard.types.HasDefault (.struct 1) ∧ ¬ orchard.types.HasDefault (.struct 2) ∧
      ∃ v w', Instantiates .idle orchard 3 v w' ∧
        (newInstance .idle 3).outcome orchard = (v, w') ∧ w'.types = orchard.types ∧
        w'.typeOf? v = some 3 ∧ w'.Fresh v := by
  refine ⟨rfl, ?_, fun default => ?_, newInstance_fresh defaulted_orchard .idle (by decide)⟩
  · rintro _ ⟨⟩
    rfl
  · exact absurd (default 2 rfl) (by decide)

/-- A class without members, and one with a field of a struct kind over it. -/
def pier : World Empty Unit :=
  let crate : TypeBuilder Empty := .ofClauses .reference "Crate" []
  let pier : TypeBuilder Empty := .ofClauses .reference "Pier" [.field "cargo" (.struct 0)]
  let types : TypeTable Empty := TypeTable.add {} (crate.describe {})
  { types := types.add (pier.describe types)
    statics := #[{}, {}]
    host := () }

theorem defaulted_pier : pier.types.Defaulted := by
  refine .add (.add .empty .reference "Crate" ?_ rfl) .reference "Pier" ?_ rfl
  all_goals simp [Clause.Defaulted, Kind.type?, TypeTable.size, TypeTable.add]

/-- Not every field accepts what it begins with. -/
theorem refused_cargo :
    pier.types.Defaulted ∧ ∃ w', (newInstance .idle 1).outcome pier = (.object 1, w') ∧
      w'.types.Owns 1 0 1 0 (.struct 0) ∧ (w'.slots (.object 1))[0]? = some (.object 0) ∧
      w'.accepts (.struct 0) (.object 0) = false := by
  have crate : Fills .idle 0 pier (pier.types.info 0).inits [] pier := .nil
  have cargo : Fills .idle 1 pier (pier.types.info 1).inits [(pier.instantiate 0 []).1]
      (pier.instantiate 0 []).2 := .struct crate .nil
  have makes : Instantiates .idle pier 1 (.object 1)
      ((pier.instantiate 0 []).2.instantiate 1 [.object 0]).2 := ⟨_, _, cargo, rfl⟩
  refine ⟨defaulted_pier, _, makes.outcome defaulted_pier.begins, ⟨?_, ?_⟩, rfl, rfl⟩
  · exact ⟨List.mem_cons_self, _, rfl, rfl⟩
  · have layered := defaulted_pier.built.layered
    exact fun _ _ _ other => TypeTable.declares_unique (layered.slots 1 (by decide))
      ⟨List.mem_cons_self, _, rfl, rfl⟩ other

end ObjectGraph
