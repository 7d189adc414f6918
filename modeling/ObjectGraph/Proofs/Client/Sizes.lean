import ObjectGraph.Proofs.Access.Discipline
import ObjectGraph.Proofs.Client.Command
import ObjectGraph.Proofs.Client.Invariant
import ObjectGraph.Proofs.Export.Unfolding

/-!
# Sized worlds

In a sized world every storage with declared slots has as many as are declared, and so has every
struct, wherever it is stored. Nothing is said about kinds, so writing a slot by its number keeps a
world sized as writing a field by its name does. The number of a slot that a name is found to stand
for is then the number of a slot that exists.

1. `World.Whole`, `World.Sized`, `World.Grows`: sized worlds, and what may become of them;
2. `sized_update`, `sized_allocate`, `sized_declare`: changes that keep a world sized;
3. `slot_lt_of_resolveOn`, `sizes`: access by name finds its slot;
4. `inBounds_of_sized`: sized worlds are in bounds.
-/

namespace ObjectGraph

open Client

namespace World

variable {Code Host : Type}

/-! ## 1. Sized worlds -/

/-- A struct has the slots of its type, and so have the structs inside it; the handle of a list
leads to a list. -/
inductive Whole (w : World Code Host) : Value → Prop
  | struct {t : TypeId} {fields : List Value} : t < w.types.size →
      fields.length = (w.types.info t).fieldSlots → (∀ v ∈ fields, Whole w v) →
      Whole w (.struct t fields)
  | list {a : Address} : w.shape? a = some .list → Whole w (.list a)
  | other {v : Value} : (∀ t fields, v ≠ .struct t fields) → (∀ a, v ≠ .list a) → Whole w v

/-- The number of slots that a storage is declared to have; elements are not declared. -/
def slotCount? (w : World Code Host) : StorageId → Option Nat
  | .entity a =>
    match w.shape? a with
    | some (.object t) => some (w.types.info t).fieldSlots
    | _ => none
  | .statics t => some (w.types.info t).staticSlots.length

/-- All types have been built, all storages have their slots, and all values are whole. If the
lengths of arrays are as claimed, they have been so before. -/
structure Sized (claimed : Address → Option Nat) (w : World Code Memory) : Prop where
  layered : w.types.Layered
  rows : w.statics.size = w.types.size
  declared : ∀ a t, w.shape? a = some (.object t) → t < w.types.size
  counts : ∀ id n, w.slotCount? id = some n → (w.cells id).size = n
  stored : ∀ id, ∀ v ∈ w.cells id, w.Whole v
  known : ∀ v ∈ w.host.known, w.Whole v
  ledger : w.Lengths claimed → w.host.sound

/-- `w'` has all that `w` has, its arrays with their lengths, and maybe more. -/
structure Grows (w w' : World Code Host) : Prop extends w.Extends w' where
  lengths : ∀ a, w.shape? a = some .array →
    (w'.cells (.entity a)).size = (w.cells (.entity a)).size

theorem Grows.refl (w : World Code Host) : w.Grows w := ⟨.refl w, fun _ _ => rfl⟩

theorem Grows.trans {w w' w'' : World Code Host} (h : w.Grows w') (h' : w'.Grows w'') :
    w.Grows w'' :=
  ⟨h.toExtends.trans h'.toExtends,
    fun a array => (h'.lengths a (h.shapes a _ array)).trans (h.lengths a array)⟩

theorem Whole.mono {w w' : World Code Host} (grown : w.Extends w') {v : Value} (h : w.Whole v) :
    w'.Whole v := by
  induction h with
  | struct declared count _ ih =>
    refine .struct (Nat.lt_of_lt_of_le declared grown.types.size) ?_ ih
    rw [grown.types.info _ declared]
    exact count
  | list here => exact .list (grown.shapes _ _ here)
  | other notStruct notList => exact .other notStruct notList

theorem whole_struct_iff {w : World Code Host} {t : TypeId} {fields : List Value} :
    w.Whole (.struct t fields) ↔ t < w.types.size ∧
      fields.length = (w.types.info t).fieldSlots ∧ ∀ v ∈ fields, w.Whole v := by
  constructor
  · intro whole
    cases whole with
    | struct declared count each => exact ⟨declared, count, each⟩
    | other notStruct _ => exact absurd rfl (notStruct t fields)
  · rintro ⟨declared, count, each⟩
    exact .struct declared count each

theorem whole_list_iff {w : World Code Host} {a : Address} :
    w.Whole (.list a) ↔ w.shape? a = some .list := by
  constructor
  · intro whole
    cases whole with
    | list here => exact here
    | other _ notList => exact absurd rfl (notList a)
  · exact .list

theorem whole_ofNative (w : World Code Host) (datum : Native) : w.Whole (Value.ofNative datum) := by
  cases datum <;> exact .other nofun nofun

theorem whole_object (w : World Code Host) (a : Address) : w.Whole (.object a) :=
  .other nofun nofun

/-- Lengths that are as claimed now have been so before. -/
theorem Lengths.before {w w' : World Code Host} {claimed : Address → Option Nat}
    (lengths : w'.Lengths claimed) (grown : w.Grows w') : w.Lengths claimed := by
  intro a len claim array
  rw [← grown.lengths a array]
  exact lengths a len claim (grown.shapes a _ array)

variable {w : World Code Memory} {claimed : Address → Option Nat}

/-! ## 2. Changes that keep a world sized -/

theorem cells_update_cases (w : World Code Host) (id other : StorageId) (f : Storage → Storage) :
    (w.update id f).cells other = w.cells other ∨
      other = id ∧ (w.update id f).cells other = (f (w.storage id)).cells := by
  by_cases here : id = other
  · subst here
    by_cases used : w.inUse id
    · exact .inr ⟨rfl, by rw [cells, storage_update_self f used]⟩
    · have same : w.update id f = w := update_eq_self fun used' => absurd used' used
      exact .inl (by rw [same])
  · exact .inl (by rw [cells, storage_update_of_ne w f here, cells])

theorem slotCount?_eq {w w' : World Code Host} (types : w'.types = w.types)
    (shapes : ∀ a, w'.shape? a = w.shape? a) (id : StorageId) :
    w'.slotCount? id = w.slotCount? id := by
  cases id with
  | entity a => simp only [slotCount?, shapes, types]
  | statics t => simp only [slotCount?, types]

/-- The storage of a list may have any size. -/
def IsList (w : World Code Host) (id : StorageId) : Prop :=
  ∃ a, id = .entity a ∧ w.shape? a = some .list

theorem not_isList_of_count {id : StorageId} {n : Nat} (count : w.slotCount? id = some n) :
    ¬ w.IsList id := by
  rintro ⟨a, rfl, list⟩
  simp [slotCount?, list] at count

theorem not_isList_of_array {a : Address} (array : w.shape? a = some .array) :
    ¬ w.IsList (.entity a) := by
  rintro ⟨b, ⟨⟩, list⟩
  cases array.symm.trans list

/-- Changing one storage keeps a world sized if the new contents are whole and, unless it is that of
a list, as many as before. -/
theorem sized_update (sized : w.Sized claimed) {id : StorageId} {f : Storage → Storage}
    (whole : ∀ v ∈ (f (w.storage id)).cells, w.Whole v)
    (size : ¬ w.IsList id → (f (w.storage id)).cells.size = (w.cells id).size) :
    (w.update id f).Sized claimed ∧ w.Grows (w.update id f) := by
  have extended := extends_update w id f
  have sizes (other : StorageId) (fixed : ¬ w.IsList other) :
      ((w.update id f).cells other).size = (w.cells other).size := by
    rcases cells_update_cases w id other f with same | ⟨rfl, changed⟩
    · rw [same]
    · rw [changed]
      exact size fixed
  have grown : w.Grows (w.update id f) :=
    ⟨extended, fun a array => sizes (.entity a) (not_isList_of_array array)⟩
  refine ⟨⟨?_, ?_, ?_, ?_, ?_, ?_, ?_⟩, grown⟩
  · rw [types_update]
    exact sized.layered
  · rw [types_update]
    cases id with
    | entity a => exact sized.rows
    | statics t => simpa [update] using sized.rows
  · intro a t here
    rw [shape?_update] at here
    rw [types_update]
    exact sized.declared a t here
  · intro other n count
    rw [slotCount?_eq (types_update w id f) (shape?_update w id f)] at count
    rw [sizes other (not_isList_of_count count)]
    exact sized.counts other n count
  · intro other v held
    rcases cells_update_cases w id other f with same | ⟨rfl, changed⟩
    · rw [same] at held
      exact (sized.stored other v held).mono extended
    · rw [changed] at held
      exact (whole v held).mono extended
  · rw [host_update]
    exact fun v held => (sized.known v held).mono extended
  · rw [host_update]
    exact fun lengths => sized.ledger (lengths.before grown)

theorem sized_setBorrow (sized : w.Sized claimed) (id : StorageId) (b : Borrow) :
    (w.setBorrow id b).Sized claimed ∧ w.Grows (w.setBorrow id b) :=
  sized_update sized (sized.stored id) fun _ => rfl

theorem sized_modifyCells (sized : w.Sized claimed) {id : StorageId}
    {f : Array Value → Array Value} (whole : ∀ v ∈ f (w.cells id), w.Whole v)
    (size : ¬ w.IsList id → (f (w.cells id)).size = (w.cells id).size) :
    (w.modifyCells id f).Sized claimed ∧ w.Grows (w.modifyCells id f) :=
  sized_update sized whole size

/-- Any location may be overwritten with any whole value. -/
theorem sized_write (sized : w.Sized claimed) (l : Location) {v : Value} (whole : w.Whole v) :
    (w.write l v).Sized claimed ∧ w.Grows (w.write l v) := by
  refine sized_modifyCells sized (fun u held => ?_) fun _ => Array.size_setIfInBounds
  rcases Array.mem_or_eq_of_mem_setIfInBounds held with old | rfl
  · exact sized.stored l.storage u old
  · exact whole

/-- The client's own part of the world. -/
theorem sized_host (sized : w.Sized claimed) {m : Memory} (known : ∀ v ∈ m.known, w.Whole v)
    (ledger : w.Lengths claimed → m.sound) :
    ({ w with host := m } : World Code Memory).Sized claimed ∧ w.Grows { w with host := m } := by
  have extended : w.Extends { w with host := m } := .of_eq rfl fun _ => rfl
  refine ⟨⟨sized.layered, sized.rows, sized.declared, ?_, ?_, ?_, ledger⟩, extended, fun _ _ => rfl⟩
  · intro id n count
    cases id with
    | entity a => exact sized.counts (.entity a) n count
    | statics t => exact sized.counts (.statics t) n count
  · intro id v held
    cases id with
    | entity a => exact (sized.stored (.entity a) v held).mono extended
    | statics t => exact (sized.stored (.statics t) v held).mono extended
  · exact fun v held => (known v held).mono extended

/-- The number of slots that something new is declared to have. -/
def slotCountOfShape? (w : World Code Host) : Shape → Option Nat
  | .object t => some (w.types.info t).fieldSlots
  | _ => none

/-- Creating something keeps a world sized if it has the slots of its type. -/
theorem sized_allocate (sized : w.Sized claimed) {shape : Shape} {cells : Array Value}
    (declared : ∀ t, shape = .object t → t < w.types.size)
    (size : ∀ n, w.slotCountOfShape? shape = some n → cells.size = n)
    (whole : ∀ v ∈ cells, w.Whole v) :
    (w.allocate shape cells).2.Sized claimed ∧ w.Grows (w.allocate shape cells).2 := by
  have extended := extends_allocate w shape cells
  have old {a : Address} {shape' : Shape} (here : w.shape? a = some shape') :
      StorageId.entity a ≠ .entity w.entities.size := by
    rintro ⟨⟩
    obtain ⟨e, found, -⟩ := Option.map_eq_some_iff.1 here
    exact absurd (Array.getElem?_eq_some_iff.1 found).1 (Nat.lt_irrefl _)
  have grown : w.Grows (w.allocate shape cells).2 := by
    refine ⟨extended, fun a array => ?_⟩
    rw [cells_allocate_of_ne w shape cells (old array)]
  have new : (w.allocate shape cells).2.cells (.entity w.entities.size) = cells :=
    cells_allocate w shape cells
  refine ⟨⟨sized.layered, sized.rows, fun a t here => ?_, fun id n count => ?_, fun id v held => ?_,
    ?_, ?_⟩, grown⟩
  · rw [shape?_allocate] at here
    split at here
    · exact declared t (Option.some.inj here)
    · exact sized.declared a t here
  · by_cases here : id = .entity w.entities.size
    · subst here
      rw [new]
      refine size n ?_
      rw [slotCount?, shape?_allocate, if_pos rfl] at count
      cases shape <;> exact count
    · rw [cells_allocate_of_ne w shape cells here]
      refine sized.counts id n ?_
      cases id with
      | entity a =>
        rw [slotCount?, shape?_allocate, if_neg fun same => here (by rw [same])] at count
        exact count
      | statics t => exact count
  · by_cases here : id = .entity w.entities.size
    · subst here
      rw [new] at held
      exact (whole v held).mono extended
    · rw [cells_allocate_of_ne w shape cells here] at held
      exact (sized.stored id v held).mono extended
  · exact fun v held => (sized.known v held).mono extended
  · exact fun lengths => sized.ledger (lengths.before grown)

/-- Declaring a type keeps a world sized if its static fields begin with whole values, whatever
the kinds of its fields. -/
theorem sized_declare {w' : World Code Memory} (sized : w.Sized claimed) {b : TypeBuilder Code}
    {t : TypeId} (declared : w.declare b = .ok (t, w')) {default : ValueKind → Prop}
    (counted : b.Counted (· < w.types.size) default fun _ v => w.Whole v) :
    w'.Sized claimed ∧ w.Grows w' := by
  have extended := extends_declare declared
  obtain ⟨types, statics, entities, host⟩ := declare_eq declared
  have shapes (a : Address) : w'.shape? a = w.shape? a := by rw [shape?, entities]; rfl
  have contents (a : Address) : w'.cells (.entity a) = w.cells (.entity a) := by
    simp only [cells, storage, entities]
  have grown : w.Grows w' := ⟨extended, fun a _ => by rw [contents]⟩
  -- The new type has the next row of static fields; all other rows are as before.
  have new : w'.cells (.statics w.types.size) = b.statics.toArray := by
    simp [cells, storage, statics, ← sized.rows]
  have old {s : TypeId} (other : s ≠ w.types.size) :
      w'.cells (.statics s) = w.cells (.statics s) ∧ w'.types.info s = w.types.info s := by
    have other' : s ≠ w.statics.size := fun same => other (same.trans sized.rows)
    have other'' : s ≠ w.types.infos.size := other
    constructor
    · simp [cells, storage, statics, Array.getElem?_push, other']
    · simp [types, TypeTable.info, TypeTable.add, Array.getElem?_push, other'']
  refine ⟨⟨?_, ?_, fun a s here => ?_, fun id n count => ?_, fun id v held => ?_, ?_, ?_⟩, grown⟩
  · rw [types]
    exact TypeTable.layered_add sized.layered counted
  · rw [types, statics, Array.size_push, sized.rows]
    simp [TypeTable.size, TypeTable.add]
  · rw [shapes] at here
    exact Nat.lt_of_lt_of_le (sized.declared a s here) extended.types.size
  · cases id with
    | entity a =>
      rw [contents]
      refine sized.counts (.entity a) n ?_
      rw [slotCount?, shapes] at count
      rw [slotCount?]
      rcases here : w.shape? a with _ | shape
      · simp [here] at count
      cases shape with
      | object s =>
        rw [here] at count
        rw [← count]
        exact congrArg some (congrArg _ (extended.types.info s (sized.declared a s here)).symm)
      | array => simp [here] at count
      | list => simp [here] at count
    | statics s =>
      by_cases here : s = w.types.size
      · subst here
        rw [new, List.size_toArray, ← counted.statics.length_eq]
        rw [slotCount?, types, TypeTable.info_add, TypeTable.staticSlots_describe] at count
        exact Option.some.inj count
      · obtain ⟨same, info⟩ := old here
        rw [slotCount?, info] at count
        rw [same]
        exact sized.counts (.statics s) n count
  · cases id with
    | entity a =>
      rw [contents] at held
      exact (sized.stored (.entity a) v held).mono extended
    | statics s =>
      by_cases here : s = w.types.size
      · subst here
        rw [new] at held
        obtain ⟨slot, inside, rfl⟩ := List.getElem_of_mem (List.mem_toArray.1 held)
        have inside' := inside
        rw [← counted.statics.length_eq] at inside'
        exact ((List.forall₂_iff_get.1 counted.statics).2 slot inside' inside).mono extended
      · rw [(old here).1] at held
        exact (sized.stored (.statics s) v held).mono extended
  · rw [host]
    exact fun v held => (sized.known v held).mono extended
  · rw [host]
    exact fun lengths => sized.ledger (lengths.before grown)

/-! ## 3. Access by name -/

theorem declared_of_whole (sized : w.Sized claimed) {v : Value} (whole : w.Whole v) {t : TypeId}
    (type : w.typeOf? v = some t) : t < w.types.size := by
  cases v with
  | struct s fields =>
    cases type
    exact (whole_struct_iff.1 whole).1
  | object a => exact sized.declared a t (typeOf?_object_eq_some.1 type)
  | _ => cases type

/-- Instances have the slots of their type. -/
theorem size_slots (sized : w.Sized claimed) {v : Value} (whole : w.Whole v) {t : TypeId}
    (type : w.typeOf? v = some t) : (w.slots v).size = (w.types.info t).fieldSlots := by
  cases v with
  | struct s fields =>
    cases type
    exact List.size_toArray.trans (whole_struct_iff.1 whole).2.1
  | object a =>
    refine sized.counts (.entity a) _ ?_
    rw [slotCount?, typeOf?_object_eq_some.1 type]
  | _ => cases type

/-- A field of an instance has its slot. -/
theorem slot_lt_of_mem (sized : w.Sized claimed) {v : Value} (whole : w.Whole v) {t : TypeId}
    (type : w.typeOf? v = some t) {field : Nat × ValueKind}
    (listed : field ∈ w.types.instanceSlots t) : field.1 < (w.slots v).size := by
  rw [size_slots sized whole type]
  exact sized.layered.slot_lt (declared_of_whole sized whole type) listed

/-- A field that is found by name has its slot: in the instance, or in the static storage of the
type that declares it. -/
theorem slot_lt_of_resolveOn (sized : w.Sized claimed) {container : Value}
    (whole : w.Whole container) {name : String} {owner : TypeId} {member : Member Code}
    {slot : Nat} {kind : ValueKind} (found : w.resolveOn container name = .ok { owner, member })
    (content : member.content = .field slot kind) :
    slot < (if member.isStatic then w.cells (.statics owner) else w.slots container).size := by
  obtain ⟨t, type, resolved⟩ := resolveMember_of_resolveOn found
  obtain ⟨derived, declares⟩ := TypeTable.mem_of_resolveMember resolved
  rcases static : member.isStatic with _ | _
  · have field : member.instanceField? = some (slot, kind) := by
      simp [Member.instanceField?, static, content]
    have own : (slot, kind) ∈ (w.types.info owner).ownSlots :=
      List.mem_filterMap.2 ⟨member, declares, field⟩
    rw [if_neg Bool.false_ne_true]
    exact slot_lt_of_mem sized whole type
      (List.mem_flatMap.2 ⟨owner, List.mem_reverse.2 derived, own⟩)
  · have field : member.staticField? = some (slot, kind) := by
      simp [Member.staticField?, static, content]
    have declared := declared_of_whole sized whole type
    have earlier := sized.layered.ancestors_le declared derived
    rw [if_pos rfl, sized.counts (.statics owner) _ rfl]
    exact sized.layered.staticSlot_lt (Nat.lt_of_le_of_lt earlier declared)
      (List.mem_filterMap.2 ⟨member, declares, field⟩)

end World

/-- The fault is not that a slot does not exist. What a setter has reported is not counted. -/
def AccessFault.IsInBounds (fault : AccessFault) : Prop :=
  ∀ slot len, fault ≠ .storage (.slotOutOfBounds slot len)

theorem isInBounds_of_resolveOn {w : World Code Host} {container : Value} {name : String}
    {fault : AccessFault} (h : w.resolveOn container name = .error fault) : fault.IsInBounds := by
  unfold World.resolveOn at h
  split at h
  · cases h
  · cases h
    exact nofun

theorem slotOf_eq_ok {cells : Array Value} {slot : Nat} (inside : slot < cells.size) :
    ∃ v, slotOf cells slot = .ok v := by
  rw [slotOf, Array.getElem?_eq_getElem inside]
  exact ⟨_, rfl⟩

theorem isInBounds_of_slotAt {w : World Code Host} {id : StorageId} {slot : Nat}
    (inside : slot < (w.cells id).size) {fault : AccessFault}
    (h : w.slotAt id slot = .error fault) : fault.IsInBounds := by
  unfold World.slotAt at h
  split at h
  · cases h
    exact nofun
  · obtain ⟨v, here⟩ := slotOf_eq_ok inside
    rw [here] at h
    cases h

/-- Below the size of a storage a write to a slot is refused only if the storage is in use. -/
theorem busy_of_writeSlot {w : World Code Host} {id : StorageId} {slot : Nat} {v : Value}
    (inside : slot < (w.cells id).size) {e : StorageError}
    (h : ((writeSlot id slot v).outcome w).1 = .error e) : e = .busy := by
  rw [outcome_writeSlot, if_pos inside] at h
  split at h
  · cases h
  · cases h
    rfl

theorem isInBounds_of_writeSlot {w : World Code Host} {id : StorageId} {slot : Nat} {v : Value}
    (inside : slot < (w.cells id).size) {fault : AccessFault}
    (h : ((writeSlot id slot v).outcome w).1.mapError .ofStorage = .error fault) :
    fault.IsInBounds := by
  rcases refused : ((writeSlot id slot v).outcome w).1 with e | done
  · rw [refused, busy_of_writeSlot inside refused] at h
    cases h
    exact nofun
  · rw [refused] at h
    cases h

/-- A write to an element knows no slots. -/
theorem isInBounds_of_writeElement {w : World Code Host} {container : Value} {index : UInt64}
    {v : Value} {fault : AccessFault}
    (h : ((DeferredWrite.writeElement container index v).outcome w).1 = .error fault) :
    fault.IsInBounds := by
  unfold DeferredWrite.writeElement at h
  split at h
  · cases h
    exact nofun
  · next a _ =>
    have written : ((setElementAt a index v).outcome w).1.mapError .ofElement = .error fault := h
    rw [outcome_setElementAt] at written
    split at written
    · split at written
      · cases written
      · cases written
        exact nofun
    · cases written
      exact nofun

namespace World

variable {w : World Code Memory} {claimed : Address → Option Nat}

/-- Reading where no code runs finds its slot. -/
theorem isInBounds_of_readAt (sized : w.Sized claimed) {container : Value}
    (whole : w.Whole container) {token : Token} {fault : AccessFault}
    (h : w.readAt container token = .error fault) : fault.IsInBounds := by
  unfold readAt at h
  split at h
  · cases h
    rintro _ _ ⟨⟩
  cases token with
  | element index =>
    rcases collection : container.collection? with _ | a
    · simp only [collection] at h
      cases h
      rintro _ _ ⟨⟩
    · simp only [collection, indexAt] at h
      split at h
      · cases h
        rintro _ _ ⟨⟩
      · unfold elementOf at h
        split at h
        · cases h
        · cases h
          rintro _ _ ⟨⟩
  | member name =>
    rcases found : w.resolveOn container name with fault' | ⟨owner, member⟩
    · simp only [found] at h
      cases h
      exact isInBounds_of_resolveOn found
    rcases content : member.content with ⟨slot, kind⟩ | _ | _
    · have inside := slot_lt_of_resolveOn sized whole found content
      simp only [found, content, fieldAt] at h
      split at h
      · next static =>
        rw [if_pos static] at inside
        exact isInBounds_of_slotAt inside h
      · next notStatic =>
        rw [if_neg notStatic] at inside
        cases container with
        | object a => exact isInBounds_of_slotAt inside h
        | struct t fields =>
          obtain ⟨v, here⟩ := slotOf_eq_ok inside
          have read : (slotOf (w.slots (.struct t fields)) slot).mapError .ofStorage =
            .error fault := h
          rw [here] at read
          cases read
        | _ => exact absurd inside (Nat.not_lt_zero slot)
    · simp only [found, content] at h
      cases h
      rintro _ _ ⟨⟩
    · simp only [found, content] at h
      cases h
      rintro _ _ ⟨⟩

/-- And so does writing. -/
theorem isInBounds_of_writeMember (sized : w.Sized claimed) {container : Value}
    (whole : w.Whole container) {name : String} {v : Value} {fault : AccessFault}
    (h : ((DeferredWrite.writeMember .still container name v).outcome w).1 = .error fault) :
    fault.IsInBounds := by
  rcases found : w.resolveOn container name with fault' | ⟨owner, member⟩
  · rw [DeferredWrite.writeMember, Action.outcome_bind, Action.outcome_getWorld, found] at h
    cases h
    exact isInBounds_of_resolveOn found
  rcases content : member.content with ⟨slot, kind⟩ | ⟨getter, setter⟩ | ⟨call⟩
  · have inside := slot_lt_of_resolveOn sized whole found content
    rw [DeferredWrite.outcome_writeMember_field .still v found content] at h
    split at h
    · cases h
      rintro _ _ ⟨⟩
    split at h
    · cases h
      rintro _ _ ⟨⟩
    split at h
    · next static =>
      rw [if_pos static] at inside
      exact isInBounds_of_writeSlot inside h
    · next notStatic =>
      rw [if_neg notStatic] at inside
      cases container with
      | object a => exact isInBounds_of_writeSlot inside h
      | _ =>
        cases h
        rintro _ _ ⟨⟩
  · rcases setter with _ | setter
    · rw [DeferredWrite.writeMember, Action.outcome_bind, Action.outcome_getWorld] at h
      simp only [found, content] at h
      cases h
      rintro _ _ ⟨⟩
    · rw [DeferredWrite.outcome_writeMember_property .still v found content] at h
      split at h
      · cases h
      · cases h
        rintro _ _ ⟨⟩
  · rw [DeferredWrite.writeMember, Action.outcome_bind, Action.outcome_getWorld] at h
    simp only [found, content] at h
    cases h
    rintro _ _ ⟨⟩

theorem isInBounds_of_ends (sized : w.Sized claimed) {container : Value}
    (whole : w.Whole container) {token : Token} {v : Value} {fault : AccessFault}
    (ends : DeferredWrite.Ends ⟨container, token⟩ v w (.error fault) w) : fault.IsInBounds := by
  have h : ((DeferredWrite.apply .still ⟨container, token⟩ v).outcome w).1 = .error fault :=
    congrArg Prod.fst (ends .still)
  unfold DeferredWrite.apply at h
  split at h
  · cases h
    exact nofun
  cases token with
  | element index => exact isInBounds_of_writeElement h
  | member name => exact isInBounds_of_writeMember sized whole h

theorem whole_of_readAt (sized : w.Sized claimed) {container : Value} (whole : w.Whole container)
    {token : Token} {v : Value} (h : w.readAt container token = .ok v) : w.Whole v := by
  rcases mem_of_readAt h with ⟨id, stored⟩ | ⟨t, fields, rfl, inside⟩
  · exact sized.stored id v stored
  · exact (whole_struct_iff.1 whole).2.2 v inside

end World

/-- Storages have their sizes, and access by name finds its slot. -/
def sizes (Code : Type) (claimed : Address → Option Nat) : PathDiscipline Code Memory where
  holds := World.Sized claimed
  grows := World.Grows
  refl := World.Grows.refl
  trans := World.Grows.trans
  good := World.Whole
  allowed := AccessFault.IsInBounds
  mono := fun _ grown whole => whole.mono grown.toExtends
  others := fun _ other slot len => other (.slotOutOfBounds slot len)
  read := fun sized whole _ => World.whole_of_readAt sized whole
  readFault := fun sized whole _ => World.isInBounds_of_readAt sized whole
  write := fun sized _ whole _ _ _ => World.sized_write sized _ whole
  writeFault := fun sized whole => World.isInBounds_of_ends sized whole

/-! ## 4. In bounds -/

namespace World

variable {w : World Code Memory} {claimed : Address → Option Nat}

theorem whole_of_holds (sized : w.Sized claimed) {v : Value} (held : w.Holds w.host.known v) :
    w.Whole v := by
  induction held with
  | cell stored => exact sized.stored _ _ stored
  | other known => exact sized.known _ known
  | field _ inside ih => exact (whole_struct_iff.1 ih).2.2 _ inside

/-- A field of instances under a key is one of the slots. -/
theorem mem_of_instanceFieldKeys {types : TypeTable Code} {t : TypeId} {key : String × Nat}
    (h : key ∈ types.instanceFieldKeys t) : ∃ kind, (key.2, kind) ∈ types.instanceSlots t := by
  obtain ⟨owner, derived, own⟩ := List.mem_flatMap.1 h
  obtain ⟨field, listed, rfl⟩ := List.mem_map.1 own
  obtain ⟨member, declares, found⟩ := List.mem_filterMap.1 listed
  obtain ⟨⟨slot, kind⟩, isField, rfl⟩ := Option.map_eq_some_iff.1 found
  have listed' : (slot, kind) ∈ (types.info owner).ownSlots :=
    List.mem_filterMap.2 ⟨member, declares, isField⟩
  exact ⟨kind, List.mem_flatMap.2 ⟨owner, derived, listed'⟩⟩

theorem stocked_of_whole (sized : w.Sized claimed) {v : Value} (whole : w.Whole v) :
    w.Stocked v := by
  intro key among
  unfold keys at among
  split at among
  · next t type =>
    obtain ⟨kind, listed⟩ := mem_of_instanceFieldKeys among
    exact slot_lt_of_mem sized whole type listed
  · cases among

theorem whole_of_slots (sized : w.Sized claimed) {v u : Value} (whole : w.Whole v)
    (inside : u ∈ w.slots v) : w.Whole u := by
  cases v with
  | struct t fields => exact (whole_struct_iff.1 whole).2.2 u (List.mem_toArray.1 inside)
  | object a => exact sized.stored (.entity a) u inside
  | _ => exact absurd inside (Array.not_mem_empty u)

theorem whole_of_children (sized : w.Sized claimed) {v u : Value} (whole : w.Whole v)
    (below : u ∈ w.children v) : w.Whole u := by
  unfold children at below
  split at below
  · exact sized.stored _ u (Array.mem_toList_iff.1 below)
  · exact sized.stored _ u (Array.mem_toList_iff.1 below)
  · obtain ⟨key, -, here⟩ := List.mem_filterMap.1 below
    exact whole_of_slots sized whole (Array.mem_of_getElem? here)

/-- No export of a value comes to a field without a slot. -/
theorem intact_of_whole (sized : w.Sized claimed) {v : Value} (whole : w.Whole v) : w.Intact v :=
  intact_of_closed w.Whole (fun _ => stocked_of_whole sized)
    (fun _ whole _ => whole_of_children sized whole) whole

theorem exportAt_ne_missingSlot {Host : Type} {w : World Code Host} {v : Value}
    (intact : w.Intact v) (depth : Nat) (type key : String) :
    w.exportAt depth v ≠ .error (.missingSlot type key) := by
  intro failed
  obtain ⟨position, offends, -⟩ := exportAt_error_first intact failed
  obtain ⟨u, -, fault⟩ := Option.bind_eq_some_iff.1 offends
  unfold fault? at fault
  split at fault
  · cases fault
  · split at fault
    · cases fault
    · cases fault

theorem inBounds_of_sized (sized : w.Sized claimed) : w.InBounds w.host.known := by
  refine ⟨fun a t here => ?_, fun t fields held => ?_, fun t _ => ?_,
    fun a t name here missing => ?_, fun t fields name held missing => ?_,
    fun v depth type key held => ?_⟩
  · exact size_slots sized (whole_object w a) (typeOf?_object_eq_some.2 here)
  · exact size_slots sized (whole_of_holds sized held) (v := .struct t fields) rfl
  · exact sized.counts (.statics t) _ rfl
  · rcases found : w.types.instanceField? t name with _ | ⟨slot, kind⟩
    · exact .inl rfl
    refine .inr (Classical.byContradiction fun free => ?_)
    have inside := slot_lt_of_mem sized (whole_object w a) (typeOf?_object_eq_some.2 here)
      (TypeTable.mem_instanceSlots found)
    obtain ⟨v, stored⟩ : ∃ v, slotOf (w.cells (.entity a)) slot = .ok v := slotOf_eq_ok inside
    rw [objectField?, Action.outcome_bind, Action.outcome_getWorld, typeOf?_object_eq_some.2 here,
      Option.bind_some, found] at missing
    simp only [Action.outcome_bind, outcome_readSlot, if_neg free, stored] at missing
    cases missing
  · rcases found : w.types.instanceField? t name with _ | field
    · rfl
    have inside := slot_lt_of_mem sized (whole_of_holds sized held) (v := .struct t fields) rfl
      (TypeTable.mem_instanceSlots found)
    rw [structField?, found, Option.bind_some] at missing
    rw [slots, List.size_toArray] at inside
    exact absurd (List.getElem?_eq_none_iff.1 missing) (Nat.not_le.2 inside)
  · exact exportAt_ne_missingSlot (intact_of_whole sized (whole_of_holds sized held)) depth type key

end World

end ObjectGraph
