import Mathlib.Data.List.Dedup
import Mathlib.Data.List.Nodup
import Mathlib.Data.List.Pairwise
import ObjectGraph.Proofs.Export.Unfolding
import ObjectGraph.Proofs.Type.Naming
import ObjectGraph.Proofs.Type.Numbering

/-!
# When the keys of an export are distinct

An export writes each field of instances under its plain name, or behind the name of the declaring
type if another field of the name is searched before it. This makes one key for each slot, but not
always a different one: names are free, so that a name behind the name of a type can also be the
name of another field, and two fields can agree in both names.

1. `TypeTable.fieldDeclarations`, `Declaration.Hidden`: fields that others hide;
2. `keyOf_of_hidden`, `keyOf_of_shown`: the key of each field;
3. `Separated`, `nodup_keys_iff`: when all keys are distinct, and `nodup_keys_of_plain`;
4. `keys_of_exportAt`, `export_keeps_all_iff`: what a map indexed by keys keeps of an export.
-/

namespace ObjectGraph

variable {Code Host : Type}

/-! ## 1. Hidden fields -/

namespace TypeTable

/-- The fields of instances of a type and its bases, in the order in which names are searched. -/
def fieldDeclarations (types : TypeTable Code) (t : TypeId) : List (Declaration Code) :=
  (types.declarations t).filter (·.member.instanceField?.isSome)

/-- The name of a field behind the name of the type that declares it. -/
def qualifiedName (types : TypeTable Code) (d : Declaration Code) : String :=
  types.name d.owner ++ "::" ++ d.member.name

end TypeTable

/-- The slot of a field of instances. -/
def Declaration.slot (d : Declaration Code) : Nat := d.member.instanceField?.elim 0 (·.1)

/-- Another field of instances of the same name is searched before this one. -/
def Declaration.Hidden (types : TypeTable Code) (t : TypeId) (d : Declaration Code) : Prop :=
  ∃ e ∈ types.fieldDeclarations t, e.member.name = d.member.name ∧ e.Before types d

namespace TypeTable

variable {types : TypeTable Code} {t : TypeId}

theorem mem_fieldDeclarations {d : Declaration Code} :
    d ∈ types.fieldDeclarations t ↔
      d ∈ types.declarations t ∧ ∃ kind, d.member.instanceField? = some (d.slot, kind) := by
  rw [fieldDeclarations, List.mem_filter]
  refine and_congr_right fun _ => ?_
  rw [Option.isSome_iff_exists]
  constructor
  · rintro ⟨⟨slot, kind⟩, field⟩
    exact ⟨kind, by rw [Declaration.slot, field]; rfl⟩
  · rintro ⟨kind, field⟩
    exact ⟨_, field⟩

/-! ## 2. The key of a field -/

/-- Some field of a name is found, and it is the one that no other hides. -/
theorem Layered.exists_shown (layered : types.Layered) {d : Declaration Code}
    (here : d ∈ types.fieldDeclarations t) :
    ∃ e ∈ types.fieldDeclarations t, e.member.name = d.member.name ∧ ¬ e.Hidden types t ∧
      ∃ kind, types.instanceField? t d.member.name = some (e.slot, kind) := by
  obtain ⟨declared, kind, field⟩ := mem_fieldDeclarations.1 here
  have exists_found : (types.instanceField? t d.member.name).isSome := by
    rw [instanceField?_eq, List.findSome?_isSome_iff]
    exact ⟨d, declared, by rw [fieldNamed, if_pos rfl, field]; rfl⟩
  obtain ⟨⟨slot, kind'⟩, found⟩ := Option.isSome_iff_exists.1 exists_found
  obtain ⟨front, e, back, whole, isField, others⟩ := instanceField?_eq_some.1 found
  obtain ⟨named, content⟩ := fieldNamed_eq_some.1 isField
  have there : e ∈ types.declarations t := whole ▸ List.mem_append_right _ List.mem_cons_self
  obtain rfl : e.slot = slot := by rw [Declaration.slot, content]; rfl
  refine ⟨e, mem_fieldDeclarations.2 ⟨there, kind', content⟩, named, ?_, kind', found⟩
  rintro ⟨first, among, sameName, before⟩
  obtain ⟨listed, kind'', field'⟩ := mem_fieldDeclarations.1 among
  -- what is searched before the field that is found has another name
  have ordered := layered.pairwise_declarations (lt_of_mem_declarations there)
  rw [whole, List.mem_append, List.mem_cons] at listed
  rw [whole, List.pairwise_append, List.pairwise_cons] at ordered
  rcases listed with inFront | rfl | inBack
  · have noField := others first inFront
    rw [fieldNamed, if_pos (sameName.trans named), field'] at noField
    cases noField
  · exact layered.before_asymm there there before before
  · have after : first ∈ types.declarations t :=
      whole ▸ List.mem_append_right _ (List.mem_cons_of_mem _ inBack)
    exact layered.before_asymm after there before (ordered.2.1.1 first inBack)

/-- Two fields of one name that no others hide are the same. -/
theorem Layered.eq_of_shown (layered : types.Layered) {d e : Declaration Code}
    (here : d ∈ types.fieldDeclarations t) (there : e ∈ types.fieldDeclarations t)
    (named : d.member.name = e.member.name) (shown : ¬ d.Hidden types t)
    (shown' : ¬ e.Hidden types t) : d = e := by
  refine Classical.byContradiction fun different => ?_
  have declared := (mem_fieldDeclarations.1 here).1
  have declared' := (mem_fieldDeclarations.1 there).1
  rcases layered.before_total declared declared' different with before | before
  · exact shown' ⟨d, here, named, before⟩
  · exact shown ⟨e, there, named.symm, before⟩

/-- The key of a field in an export of an instance of `t`. -/
def keyOf (types : TypeTable Code) (t : TypeId) (d : Declaration Code) : String :=
  types.fieldKey t d.owner d.member.name d.slot

theorem Layered.keyOf_of_shown (layered : types.Layered) {d : Declaration Code}
    (here : d ∈ types.fieldDeclarations t) (shown : ¬ d.Hidden types t) :
    types.keyOf t d = d.member.name := by
  obtain ⟨e, there, named, shown', kind, found⟩ := layered.exists_shown here
  obtain rfl := layered.eq_of_shown there here named shown' shown
  rw [keyOf, fieldKey_eq found, if_pos rfl]

theorem Layered.keyOf_of_hidden (layered : types.Layered) {d : Declaration Code}
    (here : d ∈ types.fieldDeclarations t) (hidden : d.Hidden types t) :
    types.keyOf t d = types.qualifiedName d := by
  obtain ⟨e, there, named, shown, kind, found⟩ := layered.exists_shown here
  obtain ⟨declared, kind', field⟩ := mem_fieldDeclarations.1 here
  obtain ⟨declared', kind'', field'⟩ := mem_fieldDeclarations.1 there
  have different : e.slot ≠ d.slot := by
    intro same
    rw [same] at field'
    obtain rfl := layered.eq_of_slot declared' declared field' field
    exact shown hidden
  rw [keyOf, fieldKey_eq found, if_neg different]
  rfl

/-! ## 3. Distinct keys -/

/-- The name of no hidden field, behind the name of its type, is the name of a field or the same for
another hidden field. -/
structure Separated (types : TypeTable Code) (t : TypeId) : Prop where
  names : ∀ d ∈ types.fieldDeclarations t, d.Hidden types t →
    ∀ e ∈ types.fieldDeclarations t, e.member.name ≠ types.qualifiedName d
  hidden : ∀ d ∈ types.fieldDeclarations t, d.Hidden types t →
    ∀ e ∈ types.fieldDeclarations t, e.Hidden types t →
      types.qualifiedName d = types.qualifiedName e → d = e

theorem map_snd_instanceFieldKeys (types : TypeTable Code) (t : TypeId) :
    (types.instanceFieldKeys t).map (·.2) = (types.instanceFields t).map (·.2) := by
  rw [instanceFieldKeys, instanceFields, List.map_flatMap, List.map_flatMap]
  exact List.flatMap_congr fun owner _ => List.map_map

/-- Keys are distinct just if no two fields have the same key. -/
theorem Layered.nodup_keys_iff_injective (layered : types.Layered) (declared : t < types.size) :
    ((types.instanceFieldKeys t).map (·.1)).Nodup ↔
      ∀ d ∈ types.fieldDeclarations t, ∀ e ∈ types.fieldDeclarations t,
        types.keyOf t d = types.keyOf t e → d = e := by
  have slots : ((types.instanceFieldKeys t).map (·.2)).Nodup := by
    rw [map_snd_instanceFieldKeys, layered.slots_instanceFields declared]
    exact List.nodup_range
  have listed {d : Declaration Code} (here : d ∈ types.fieldDeclarations t) :
      (types.keyOf t d, d.slot) ∈ types.instanceFieldKeys t := by
    obtain ⟨declared, kind, field⟩ := mem_fieldDeclarations.1 here
    exact mem_instanceFieldKeys.2 ⟨d, declared, kind, field, rfl⟩
  rw [List.nodup_map_iff_inj_on slots.of_map]
  constructor
  · intro injective d here e there same
    have pairs := injective _ (listed here) _ (listed there) same
    obtain ⟨declared, kind, field⟩ := mem_fieldDeclarations.1 here
    obtain ⟨declared', kind', field'⟩ := mem_fieldDeclarations.1 there
    rw [← (Prod.mk.inj pairs).2] at field'
    exact layered.eq_of_slot declared declared' field field'
  · have origin (entry : String × Nat) (among : entry ∈ types.instanceFieldKeys t) :
        ∃ d ∈ types.fieldDeclarations t, entry = (types.keyOf t d, d.slot) := by
      obtain ⟨d, declared, kind, field, key⟩ := mem_instanceFieldKeys.1 among
      have slot : d.slot = entry.2 := by rw [Declaration.slot, field]; rfl
      rw [← slot] at field key
      exact ⟨d, mem_fieldDeclarations.2 ⟨declared, kind, field⟩, Prod.ext key slot.symm⟩
    intro injective entry among entry' among' same
    obtain ⟨d, here, rfl⟩ := origin entry among
    obtain ⟨e, there, rfl⟩ := origin entry' among'
    rw [injective d here e there same]

/-- The keys of an export are distinct just if the names of the hidden fields keep them apart. -/
theorem Layered.nodup_keys_iff (layered : types.Layered) (declared : t < types.size) :
    ((types.instanceFieldKeys t).map (·.1)).Nodup ↔ types.Separated t := by
  rw [layered.nodup_keys_iff_injective declared]
  constructor
  · intro injective
    constructor
    · intro d here hidden e there named
      -- the field that is found under the name of `e` has that name as its key
      obtain ⟨shown, among, sameName, notHidden, -⟩ := layered.exists_shown there
      have keys : types.keyOf t shown = types.keyOf t d := by
        rw [layered.keyOf_of_shown among notHidden, layered.keyOf_of_hidden here hidden,
          sameName, named]
      exact notHidden (injective shown among d here keys ▸ hidden)
    · intro d here hidden e there hidden' same
      refine injective d here e there ?_
      rw [layered.keyOf_of_hidden here hidden, layered.keyOf_of_hidden there hidden', same]
  · intro separated d here e there same
    by_cases hidden : d.Hidden types t
    · rw [layered.keyOf_of_hidden here hidden] at same
      by_cases hidden' : e.Hidden types t
      · rw [layered.keyOf_of_hidden there hidden'] at same
        exact separated.hidden d here hidden e there hidden' same
      · rw [layered.keyOf_of_shown there hidden'] at same
        exact absurd same.symm (separated.names d here hidden e there)
    · rw [layered.keyOf_of_shown here hidden] at same
      by_cases hidden' : e.Hidden types t
      · rw [layered.keyOf_of_hidden there hidden'] at same
        exact absurd same (separated.names e there hidden' d here)
      · rw [layered.keyOf_of_shown there hidden'] at same
        exact layered.eq_of_shown here there same hidden hidden'

/-- Names as they are in ordinary programs: without colons, with a different name for each type of
the chain and for each field of one type. -/
structure PlainlyNamed (types : TypeTable Code) (t : TypeId) : Prop where
  typeNames : ∀ owner ∈ types.ancestors t, ':' ∉ (types.name owner).toList
  fieldNames : ∀ d ∈ types.fieldDeclarations t, ':' ∉ d.member.name.toList
  owners : ∀ owner ∈ types.ancestors t, ∀ owner' ∈ types.ancestors t,
    types.name owner = types.name owner' → owner = owner'
  once : ∀ d ∈ types.fieldDeclarations t, ∀ e ∈ types.fieldDeclarations t,
    d.owner = e.owner → d.member.name = e.member.name → d = e

/-- What stands before the first colon of a qualified name is the name of the type. -/
theorem qualifier_eq {qualifier qualifier' name name' : String} (plain : ':' ∉ qualifier.toList)
    (plain' : ':' ∉ qualifier'.toList)
    (same : qualifier ++ "::" ++ name = qualifier' ++ "::" ++ name') :
    qualifier = qualifier' ∧ name = name' := by
  have first {q n : String} (h : ':' ∉ q.toList) :
      (q ++ "::" ++ n).toList.takeWhile (· ≠ ':') = q.toList := by
    have apart : ∀ c ∈ q.toList, decide (c ≠ ':') = true := by
      rintro c among
      exact decide_eq_true fun colon => h (colon ▸ among)
    rw [String.toList_append, String.toList_append, List.append_assoc,
      List.takeWhile_append_of_pos apart]
    exact List.append_nil _
  obtain rfl : qualifier = qualifier' := by
    rw [← String.toList_inj, ← first (n := name) plain, same, first plain']
  refine ⟨rfl, ?_⟩
  rw [← String.toList_inj, String.toList_append, String.toList_append (s := _ ++ _)] at same
  exact String.toList_inj.1 (List.append_cancel_left same)

theorem PlainlyNamed.separated (plain : types.PlainlyNamed t) : types.Separated t := by
  have owner {d : Declaration Code} (here : d ∈ types.fieldDeclarations t) :
      d.owner ∈ types.ancestors t := (mem_declarations.1 (mem_fieldDeclarations.1 here).1).1
  constructor
  · intro d here _ e there named
    refine plain.fieldNames e there ?_
    rw [named, qualifiedName, String.toList_append, String.toList_append]
    simp
  · intro d here _ e there _ same
    obtain ⟨types, names⟩ :=
      qualifier_eq (plain.typeNames _ (owner here)) (plain.typeNames _ (owner there)) same
    exact plain.once d here e there (plain.owners _ (owner here) _ (owner there) types) names

end TypeTable

/-! ## 4. Exports -/

theorem keys_of_entries {child : Value → Except ExportError Tree} {name : String}
    {slots : Array Value} {keys : List (String × Nat)} {entries : List (String × Tree)}
    (exported : Export.entries child name slots keys = .ok entries) :
    entries.map (·.1) = keys.map (·.1) := by
  induction keys generalizing entries with
  | nil =>
    cases exported
    rfl
  | cons key keys ih =>
    rw [Export.entries] at exported
    rcases slot : slots[key.2]? with _ | v
    · rw [slot] at exported
      cases exported
    rw [slot] at exported
    rcases found : child v with e | tree
    · simp only [found] at exported
      cases exported
    rcases rest : Export.entries child name slots keys with e | later
    · simp only [found, rest] at exported
      cases exported
    · simp only [found, rest] at exported
      cases exported
      rw [List.map_cons, List.map_cons, ih rest]

theorem keys_of_fields {child : Value → Except ExportError Tree} {w : World Code Host} {t : TypeId}
    {slots : Array Value} {entries : List (String × Tree)}
    (exported : Export.fields child w t slots = .ok (.map entries)) :
    entries.map (·.1) = (w.types.instanceFieldKeys t).map (·.1) := by
  unfold Export.fields at exported
  rcases found : Export.entries child (w.types.name t) slots (w.types.instanceFieldKeys t) with
    e | es
  · rw [found] at exported
    cases exported
  · rw [found] at exported
    cases exported
    exact keys_of_entries found

/-- An exported instance has the keys of its type, in their order. -/
theorem keys_of_exportAt {w : World Code Host} {t : TypeId} {v : Value} {depth : Nat}
    {entries : List (String × Tree)} (type : w.typeOf? v = some t)
    (exported : w.exportAt depth v = .ok (.map entries)) :
    entries.map (·.1) = (w.types.instanceFieldKeys t).map (·.1) := by
  unfold World.exportAt at exported
  generalize maxDepth + 1 - depth = levels at exported
  rcases levels with _ | levels
  · cases exported
  rw [Export.tree] at exported
  cases v with
  | struct s fields =>
    cases type
    exact keys_of_fields exported
  | object a =>
    rw [Export.node, type] at exported
    rcases found : w.readable a with e | slots
    · rw [found] at exported
      cases exported
    · rw [found] at exported
      exact keys_of_fields exported
  | _ => cases type

/-- When an export keeps all fields apart.

There is one key for each slot of an instance, in the order of the slots, and an exported instance
has just these keys. All of them are different, so that a map indexed by keys has an entry for each
slot, if and only if no hidden field, named behind the name of its type, has the name of another
field or of another hidden field so named. That is the case if the names are plain. -/
theorem nodup_keys_spec {w : World Code Host} (built : w.types.Built) {t : TypeId}
    (declared : t < w.types.size) :
    (w.types.instanceFieldKeys t).map (·.2) = List.range (w.types.info t).fieldSlots ∧
    (((w.types.instanceFieldKeys t).map (·.1)).Nodup ↔ w.types.Separated t) ∧
    (w.types.PlainlyNamed t → w.types.Separated t) ∧
    ∀ depth v entries, w.typeOf? v = some t → w.exportAt depth v = .ok (.map entries) →
      entries.map (·.1) = (w.types.instanceFieldKeys t).map (·.1) ∧
      ((entries.map (·.1)).dedup.length = (w.types.info t).fieldSlots ↔ w.types.Separated t) := by
  have layered := built.layered
  have slots : (w.types.instanceFieldKeys t).map (·.2) =
      List.range (w.types.info t).fieldSlots := by
    rw [TypeTable.map_snd_instanceFieldKeys, layered.slots_instanceFields declared]
  have distinct := layered.nodup_keys_iff declared
  refine ⟨slots, distinct, TypeTable.PlainlyNamed.separated, ?_⟩
  intro depth v entries type exported
  have keys := keys_of_exportAt type exported
  have count : (entries.map (·.1)).length = (w.types.info t).fieldSlots := by
    have numbers := congrArg List.length slots
    rw [List.length_map, List.length_range] at numbers
    rw [keys, List.length_map, numbers]
  refine ⟨keys, ?_⟩
  rw [← distinct, ← keys, ← count]
  constructor
  · intro all
    rw [← (List.dedup_sublist _).eq_of_length all]
    exact List.nodup_dedup _
  · intro nodup
    rw [nodup.dedup]

/-- A derived class that hides a field of its base class has distinct keys. -/
theorem nodup_keys_of_player :
    withPlayer.types.instanceFieldKeys 2 = [("Unit::hp", 0), ("name", 1), ("hp", 2)] ∧
      withPlayer.types.Separated 2 ∧
      ∀ depth v entries, withPlayer.typeOf? v = some 2 →
        withPlayer.exportAt depth v = .ok (.map entries) →
        (entries.map (·.1)).dedup.length = 3 := by
  have built : withPlayer.types.Built :=
    .add built_units .reference "Player" (by simp [playerClauses]; decide) rfl
  have keys : withPlayer.types.instanceFieldKeys 2 = [("Unit::hp", 0), ("name", 1), ("hp", 2)] :=
    rfl
  obtain ⟨-, distinct, -, exported⟩ := nodup_keys_spec built (t := 2) (by decide)
  have separated := distinct.1 (by rw [keys]; decide)
  exact ⟨keys, separated, fun depth v entries type found =>
    (exported depth v entries type found).2.2 separated⟩

/-- A class that declares a name for three fields, and an instance. -/
def triplet : World Empty Unit :=
  { types := TypeTable.add {} ((TypeBuilder.ofClauses .reference "T"
      [.field "a" .int, .field "a" .int, .field "a" .int]).describe {})
    statics := #[{}]
    entities := #[{ shape := .object 0, storage := { cells := #[.int 1, .int 2, .int 3] } }]
    host := () }

/-- Of its two hidden fields, a map indexed by keys keeps one. -/
theorem keys_of_triplet :
    triplet.types.Built ∧
      triplet.types.instanceFieldKeys 0 = [("a", 0), ("T::a", 1), ("T::a", 2)] ∧
      ¬ ((triplet.types.instanceFieldKeys 0).map (·.1)).Nodup ∧
      ∃ entries, triplet.exportAt 0 (.object 0) = .ok (.map entries) ∧
        entries = [("a", .int 1), ("T::a", .int 2), ("T::a", .int 3)] ∧
        (entries.map (·.1)).dedup.length < (triplet.types.info 0).fieldSlots := by
  refine ⟨.add .empty .reference "T" (by simp) rfl, rfl, ?_, _, rfl, rfl, by decide⟩
  rw [show triplet.types.instanceFieldKeys 0 = [("a", 0), ("T::a", 1), ("T::a", 2)] from rfl]
  decide

end ObjectGraph
