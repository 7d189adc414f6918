import ObjectGraph.Proofs.Client.Program

/-!
# Typed worlds

In a typed world all types are laid out, a handle leads to what it says it does, and a storage with
declared slots fits their kinds. Worlds only grow: a type, once declared, stays as it is, and so
does the shape of whatever is at an address. What a kind accepts it therefore accepts forever.

1. `World.Extends`, `accepts_of_extends`, `sound_of_extends`: growing worlds;
2. `World.Fits`, `World.Invariant`: the invariant;
3. `invariant_modifyCells`, `invariant_allocate`, `invariant_declare`: changes that keep it;
4. `kindsSound_of_invariant`: it makes field kinds sound.
-/

namespace ObjectGraph

open Client

namespace World

variable {Code Host : Type}

/-! ## 1. Growing worlds -/

/-- The kinds accept the values, one by one. -/
def AcceptsAll (w : World Code Host) (kinds : List ValueKind) (vs : List Value) : Prop :=
  List.Forall₂ (fun kind v => w.accepts kind v = true) kinds vs

/-- An array or a list is at the address. -/
def IsCollection (w : World Code Host) (a : Address) : Prop :=
  w.shape? a = some .array ∨ w.shape? a = some .list

/-- Handles lead to what they say, and the fields of structs fit their kinds. -/
inductive Sound (w : World Code Host) : Value → Prop
  | null : Sound w .null
  | bool (b : Bool) : Sound w (.bool b)
  | int (n : Int64) : Sound w (.int n)
  | float (x : Binary64) : Sound w (.float x)
  | char (c : Char) : Sound w (.char c)
  | str (s : String) : Sound w (.str s)
  | struct {t : TypeId} {fields : List Value} : t < w.types.size →
      w.AcceptsAll (w.types.fieldKinds t) fields → (∀ v ∈ fields, Sound w v) →
      Sound w (.struct t fields)
  | object {a : Address} {t : TypeId} : w.shape? a = some (.object t) → Sound w (.object a)
  | array {a : Address} : w.shape? a = some .array → Sound w (.array a)
  | list {a : Address} : w.shape? a = some .list → Sound w (.list a)

/-- All types are laid out and have their static storage, and all objects have a declared type. -/
structure Typed (w : World Code Host) : Prop where
  laidOut : w.types.LaidOut
  rows : w.statics.size = w.types.size
  declared : ∀ a t, w.shape? a = some (.object t) → t < w.types.size

/-- `w'` has the types of `w` and at each address what `w` has there, and maybe more. -/
structure Extends (w w' : World Code Host) : Prop where
  types : w.types.Extends w'.types
  shapes : ∀ a shape, w.shape? a = some shape → w'.shape? a = some shape

theorem Extends.refl (w : World Code Host) : w.Extends w :=
  ⟨TypeTable.Extends.refl _, fun _ _ h => h⟩

theorem Extends.trans {w w' w'' : World Code Host} (h : w.Extends w') (h' : w'.Extends w'') :
    w.Extends w'' :=
  ⟨h.types.trans h'.types, fun a shape here => h'.shapes a shape (h.shapes a shape here)⟩

theorem Extends.of_eq {w w' : World Code Host} (types : w'.types = w.types)
    (shapes : ∀ a, w'.shape? a = w.shape? a) : w.Extends w' := by
  refine ⟨by rw [types]; exact TypeTable.Extends.refl _, fun a shape here => ?_⟩
  rw [shapes]
  exact here

theorem IsCollection.mono {w w' : World Code Host} {a : Address} (h : w.IsCollection a)
    (grown : w.Extends w') : w'.IsCollection a :=
  h.imp (grown.shapes a _) (grown.shapes a _)

/-- A subtype stays a subtype, so a kind that accepts a value accepts it forever. -/
theorem accepts_of_extends {w w' : World Code Host} (typed : w.Typed) (grown : w.Extends w')
    {kind : ValueKind} {v : Value} (h : w.accepts kind v = true) : w'.accepts kind v = true := by
  cases kind with
  | object t =>
    cases v with
    | object a =>
      simp only [accepts, typeOf?_object] at h ⊢
      rcases here : w.shape? a with _ | shape
      · simp [here] at h
      cases shape with
      | object s =>
        rw [here] at h
        rw [grown.shapes a _ here]
        simp only [Option.bind_some, TypeTable.isSubtype] at h ⊢
        rw [TypeTable.ancestors_eq grown.types (typed.declared a s here)]
        exact h
      | array => simp [here] at h
      | list => simp [here] at h
    | _ => exact h
  | _ => cases v <;> exact h

theorem AcceptsAll.mono {w w' : World Code Host} {kinds : List ValueKind} {vs : List Value}
    (h : w.AcceptsAll kinds vs) (typed : w.Typed) (grown : w.Extends w') :
    w'.AcceptsAll kinds vs :=
  List.Forall₂.imp (fun _ _ => accepts_of_extends typed grown) h

theorem acceptsAll_set {w : World Code Host} {kinds : List ValueKind} {vs : List Value}
    (h : w.AcceptsAll kinds vs) {i : Nat} {v : Value}
    (accepted : ∀ kind, kinds[i]? = some kind → w.accepts kind v = true) :
    w.AcceptsAll kinds (vs.set i v) := by
  refine List.forall₂_iff_get.2 ⟨?_, fun j inside inside' => ?_⟩
  · rw [List.length_set]
    exact h.length_eq
  · simp only [List.get_eq_getElem, List.getElem_set]
    split
    · next here =>
      subst here
      exact accepted _ (List.getElem?_eq_getElem inside)
    · exact (List.forall₂_iff_get.1 h).2 j inside (by simpa using inside')

theorem sound_of_extends {w w' : World Code Host} (typed : w.Typed) (grown : w.Extends w')
    {v : Value} (h : w.Sound v) : w'.Sound v := by
  induction h with
  | null => exact .null
  | bool b => exact .bool b
  | int n => exact .int n
  | float x => exact .float x
  | char c => exact .char c
  | str s => exact .str s
  | struct declared accepted _ ih =>
    refine .struct (Nat.lt_of_lt_of_le declared grown.types.size) ?_ ih
    rw [typed.laidOut.fieldKinds_eq grown.types declared]
    exact accepted.mono typed grown
  | object here => exact .object (grown.shapes _ _ here)
  | array here => exact .array (grown.shapes _ _ here)
  | list here => exact .list (grown.shapes _ _ here)

/-! ## 2. The invariant -/

/-- The kinds of the slots of a storage; the elements of a collection have none. -/
def kindsOf (w : World Code Host) : StorageId → Option (List ValueKind)
  | .entity a =>
    match w.shape? a with
    | some (.object t) => some (w.types.fieldKinds t)
    | _ => none
  | .statics t => some (w.types.staticKinds t)

/-- Some cells hold sound values, which fit their kinds. -/
structure Fits (w : World Code Host) (kinds : Option (List ValueKind)) (cells : Array Value) :
    Prop where
  sound : ∀ v ∈ cells, w.Sound v
  accepted : ∀ ks, kinds = some ks → w.AcceptsAll ks cells.toList

theorem Fits.mono {w w' : World Code Host} {kinds : Option (List ValueKind)}
    {cells : Array Value} (h : w.Fits kinds cells) (typed : w.Typed) (grown : w.Extends w') :
    w'.Fits kinds cells :=
  ⟨fun v held => sound_of_extends typed grown (h.sound v held),
    fun ks some => (h.accepted ks some).mono typed grown⟩

theorem fits_empty (w : World Code Host) : w.Fits none #[] := ⟨nofun, nofun⟩

/-- A client and the graph that it works on are in order. -/
structure Invariant (w : World Code Memory) : Prop where
  typed : w.Typed
  stored : ∀ id, w.Fits (w.kindsOf id) (w.cells id)
  known : ∀ v ∈ w.host.known, w.Sound v
  guards : ∀ guard ∈ w.host.guards, guard.forWriting = true → w.IsCollection guard.address
  sound : w.host.sound

/-! ## 3. Changes that keep the invariant -/

theorem kindsOf_eq {w w' : World Code Host} (types : w'.types = w.types)
    (shapes : ∀ a, w'.shape? a = w.shape? a) (id : StorageId) : w'.kindsOf id = w.kindsOf id := by
  cases id with
  | entity a => simp only [kindsOf, shapes, types]
  | statics t => simp only [kindsOf, types]

theorem kindsOf_entity {w w' : World Code Host} {a : Address} (typed : w.Typed)
    (grown : w.types.Extends w'.types) (shape : w'.shape? a = w.shape? a) :
    w'.kindsOf (.entity a) = w.kindsOf (.entity a) := by
  rw [kindsOf, kindsOf, shape]
  rcases here : w.shape? a with _ | shape
  · rfl
  cases shape with
  | object t => simp only [typed.laidOut.fieldKinds_eq grown (typed.declared a t here)]
  | array => rfl
  | list => rfl

theorem typed_update {w : World Code Host} (typed : w.Typed) (id : StorageId)
    (f : Storage → Storage) : (w.update id f).Typed := by
  refine ⟨?_, ?_, ?_⟩
  · rw [types_update]
    exact typed.laidOut
  · rw [types_update]
    cases id with
    | entity a => exact typed.rows
    | statics t => simpa [update] using typed.rows
  · intro a t here
    rw [shape?_update] at here
    rw [types_update]
    exact typed.declared a t here

theorem extends_update (w : World Code Host) (id : StorageId) (f : Storage → Storage) :
    w.Extends (w.update id f) :=
  .of_eq (types_update w id f) (shape?_update w id f)

theorem extends_setBorrow (w : World Code Host) (id : StorageId) (b : Borrow) :
    w.Extends (w.setBorrow id b) := by
  unfold setBorrow
  exact extends_update ..

theorem extends_modifyCells (w : World Code Host) (id : StorageId)
    (f : Array Value → Array Value) : w.Extends (w.modifyCells id f) := by
  unfold modifyCells
  exact extends_update ..

theorem extends_write (w : World Code Host) (l : Location) (v : Value) :
    w.Extends (w.write l v) := extends_modifyCells ..

/-- Changing one storage keeps the invariant if the new contents fit. -/
theorem invariant_update {w : World Code Memory} (inv : w.Invariant) {id : StorageId}
    {f : Storage → Storage} (fits : w.Fits (w.kindsOf id) (f (w.storage id)).cells) :
    (w.update id f).Invariant := by
  have grown := extends_update w id f
  refine ⟨typed_update inv.typed id f, fun other => ?_, ?_, ?_, ?_⟩
  · rw [kindsOf_eq (types_update w id f) (shape?_update w id f)]
    by_cases here : id = other
    · subst here
      -- A storage that is not in use stays as it is, whatever the change.
      by_cases used : w.inUse id
      · rw [cells, storage_update_self f used]
        exact fits.mono inv.typed grown
      · have same : w.update id f = w := update_eq_self fun used' => absurd used' used
        rw [same]
        exact inv.stored id
    · rw [cells, storage_update_of_ne w f here]
      exact (inv.stored other).mono inv.typed grown
  · rw [host_update]
    exact fun v held => sound_of_extends inv.typed grown (inv.known v held)
  · rw [host_update]
    exact fun guard open_ writes => (inv.guards guard open_ writes).mono grown
  · rw [host_update]
    exact inv.sound

theorem invariant_setBorrow {w : World Code Memory} (inv : w.Invariant) (id : StorageId)
    (b : Borrow) : (w.setBorrow id b).Invariant :=
  invariant_update inv (inv.stored id)

theorem invariant_modifyCells {w : World Code Memory} (inv : w.Invariant) {id : StorageId}
    {f : Array Value → Array Value} (fits : w.Fits (w.kindsOf id) (f (w.cells id))) :
    (w.modifyCells id f).Invariant :=
  invariant_update inv fits

/-- Overwriting one location keeps the invariant if the value is sound and accepted there. -/
theorem invariant_write {w : World Code Memory} (inv : w.Invariant) {l : Location} {v : Value}
    (sound : w.Sound v)
    (accepted : ∀ ks, w.kindsOf l.storage = some ks → ∀ kind, ks[l.index]? = some kind →
      w.accepts kind v = true) : (w.write l v).Invariant := by
  refine invariant_modifyCells inv ⟨fun u held => ?_, fun ks some => ?_⟩
  · rcases Array.mem_or_eq_of_mem_setIfInBounds held with old | rfl
    · exact (inv.stored l.storage).sound u old
    · exact sound
  · have before := (inv.stored l.storage).accepted ks some
    rw [Array.toList_setIfInBounds]
    exact acceptsAll_set before (accepted ks some)

/-- The client's own part of the world. -/
theorem invariant_host {w : World Code Memory} (inv : w.Invariant) {m : Memory}
    (known : ∀ v ∈ m.known, w.Sound v)
    (guards : ∀ guard ∈ m.guards, guard.forWriting = true → w.IsCollection guard.address)
    (sound : m.sound) : ({ w with host := m } : World Code Memory).Invariant := by
  have grown : w.Extends { w with host := m } := .of_eq rfl fun _ => rfl
  have typed : ({ w with host := m } : World Code Memory).Typed :=
    ⟨inv.typed.laidOut, inv.typed.rows, inv.typed.declared⟩
  refine ⟨typed, fun id => ?_, fun v held => ?_, fun guard open_ writes => ?_, sound⟩
  · have stored := (inv.stored id).mono inv.typed grown
    have same : ({ w with host := m } : World Code Memory).kindsOf id = w.kindsOf id :=
      kindsOf_eq rfl (fun _ => rfl) id
    rw [← same] at stored
    cases id <;> exact stored
  · exact sound_of_extends inv.typed grown (known v held)
  · exact (guards guard open_ writes).mono grown

theorem shape?_allocate (w : World Code Host) (shape : Shape) (cells : Array Value)
    (a : Address) : (w.allocate shape cells).2.shape? a =
      if a = w.entities.size then some shape else w.shape? a := by
  simp only [allocate, shape?, Array.getElem?_push]
  split <;> rfl

theorem cells_allocate_of_ne (w : World Code Host) (shape : Shape) (cells : Array Value)
    {id : StorageId} (different : id ≠ .entity w.entities.size) :
    (w.allocate shape cells).2.cells id = w.cells id := by
  cases id with
  | entity a =>
    have apart : a ≠ w.entities.size := fun same => different (by rw [same])
    simp [allocate, World.cells, storage, Array.getElem?_push, apart]
  | statics t => rfl

theorem extends_allocate (w : World Code Host) (shape : Shape) (cells : Array Value) :
    w.Extends (w.allocate shape cells).2 := by
  refine ⟨TypeTable.Extends.refl _, fun a shape' here => ?_⟩
  have used : a < w.entities.size := by
    obtain ⟨e, found, -⟩ := Option.map_eq_some_iff.1 here
    exact (Array.getElem?_eq_some_iff.1 found).1
  rw [shape?_allocate, if_neg (Nat.ne_of_lt used)]
  exact here

/-- The kinds that the slots of a new entity are to fit. -/
def kindsOfShape (w : World Code Host) : Shape → Option (List ValueKind)
  | .object t => some (w.types.fieldKinds t)
  | _ => none

/-- Creating something keeps the invariant if its contents fit. -/
theorem invariant_allocate {w : World Code Memory} (inv : w.Invariant) {shape : Shape}
    {cells : Array Value} (declared : ∀ t, shape = .object t → t < w.types.size)
    (fits : w.Fits (w.kindsOfShape shape) cells) : (w.allocate shape cells).2.Invariant := by
  have grown := extends_allocate w shape cells
  have typed : (w.allocate shape cells).2.Typed := by
    refine ⟨inv.typed.laidOut, inv.typed.rows, fun a t here => ?_⟩
    rw [shape?_allocate] at here
    split at here
    · exact declared t (Option.some.inj here)
    · exact inv.typed.declared a t here
  refine ⟨typed, fun id => ?_, ?_, ?_, inv.sound⟩
  · by_cases here : id = .entity w.entities.size
    · subst here
      have contents : (w.allocate shape cells).2.cells (.entity w.entities.size) = cells :=
        cells_allocate w shape cells
      have kinds : (w.allocate shape cells).2.kindsOf (.entity w.entities.size) =
          w.kindsOfShape shape := by
        rw [kindsOf, shape?_allocate, if_pos rfl]
        cases shape <;> rfl
      rw [contents, kinds]
      exact fits.mono inv.typed grown
    · have kinds : (w.allocate shape cells).2.kindsOf id = w.kindsOf id := by
        cases id with
        | entity a =>
          refine kindsOf_entity inv.typed grown.types ?_
          rw [shape?_allocate, if_neg fun same => here (by rw [same])]
        | statics t => rfl
      rw [cells_allocate_of_ne w shape cells here, kinds]
      exact (inv.stored id).mono inv.typed grown
  · exact fun v held => sound_of_extends inv.typed grown (inv.known v held)
  · exact fun guard open_ writes => (inv.guards guard open_ writes).mono grown

theorem declare_eq {w w' : World Code Host} {b : TypeBuilder Code} {t : TypeId}
    (declared : w.declare b = .ok (t, w')) :
    w'.types = w.types.add (b.describe w.types) ∧
      w'.statics = w.statics.push { cells := b.statics.toArray } ∧ w'.entities = w.entities ∧
      w'.host = w.host := by
  unfold declare at declared
  split at declared
  · cases declared
  · cases declared
    exact ⟨rfl, rfl, rfl, rfl⟩

theorem extends_declare {w w' : World Code Host} {b : TypeBuilder Code} {t : TypeId}
    (declared : w.declare b = .ok (t, w')) : w.Extends w' := by
  obtain ⟨types, -, entities, -⟩ := declare_eq declared
  refine ⟨by rw [types]; exact TypeTable.extends_add _ _, fun a shape here => ?_⟩
  rw [shape?, entities]
  exact here

/-- Declaring a type keeps the invariant if the values of its static fields are sound, and both they
and the defaults of its other fields are accepted. -/
theorem invariant_declare {w w' : World Code Memory} (inv : w.Invariant) {b : TypeBuilder Code}
    {t : TypeId} (declared : w.declare b = .ok (t, w'))
    (counted : b.Counted (· < w.types.size) w.types.HasDefault
      fun kind v => w.accepts kind v = true ∧ w.Sound v) : w'.Invariant := by
  have grown := extends_declare declared
  obtain ⟨types, statics, entities, host⟩ := declare_eq declared
  have shapes (a : Address) : w'.shape? a = w.shape? a := by rw [shape?, entities]; rfl
  have laidOut := TypeTable.laidOut_add inv.typed.laidOut counted
  refine ⟨⟨?_, ?_, fun a s here => ?_⟩, fun id => ?_, fun v held => ?_,
    fun guard open_ writes => ?_, ?_⟩
  · rw [types]
    exact laidOut
  · rw [types, statics, Array.size_push, inv.typed.rows]
    simp [TypeTable.size, TypeTable.add]
  · rw [shapes] at here
    exact Nat.lt_of_lt_of_le (inv.typed.declared a s here) grown.types.size
  · have stored := (inv.stored id).mono inv.typed grown
    cases id with
    | entity a =>
      have contents : w'.cells (.entity a) = w.cells (.entity a) := by
        simp only [cells, storage, entities]
      rw [contents, kindsOf_entity inv.typed grown.types (shapes a)]
      exact stored
    | statics s =>
      -- The new type has the next row of static fields; all other rows are as before.
      by_cases new : s = w.types.size
      · subst new
        have contents : w'.cells (.statics w.types.size) = b.statics.toArray := by
          simp [cells, storage, statics, ← inv.typed.rows]
        have kinds : w'.types.staticKinds w.types.size =
            (b.members.filterMap Member.staticField?).map (·.2) := by
          rw [types, TypeTable.staticKinds, TypeTable.info_add, TypeTable.staticSlots_describe]
        rw [contents]
        refine ⟨fun v held => ?_, ?_⟩
        · obtain ⟨slot, inside, rfl⟩ := List.getElem_of_mem (List.mem_toArray.1 held)
          have inside' := inside
          rw [← counted.statics.length_eq] at inside'
          have kept := (List.forall₂_iff_get.1 counted.statics).2 slot inside' inside
          exact sound_of_extends inv.typed grown kept.2
        · rintro _ ⟨⟩
          rw [kinds, AcceptsAll, List.forall₂_map_left_iff]
          exact counted.statics.imp fun _ _ kept => accepts_of_extends inv.typed grown kept.1
      · have old : s ≠ w.statics.size := fun same => new (same.trans inv.typed.rows)
        have contents : w'.cells (.statics s) = w.cells (.statics s) := by
          simp [cells, storage, statics, Array.getElem?_push, old]
        have info : w'.types.info s = w.types.info s := by
          have other : s ≠ w.types.infos.size := new
          simp [types, TypeTable.info, TypeTable.add, Array.getElem?_push, other]
        rw [contents, kindsOf, TypeTable.staticKinds, info]
        exact stored
  · rw [host] at held
    exact sound_of_extends inv.typed grown (inv.known v held)
  · rw [host] at open_
    exact (inv.guards guard open_ writes).mono grown
  · rw [host]
    exact inv.sound

/-! ## 4. Soundness of kinds -/

theorem slotSound {w : World Code Host} (typed : w.Typed) {t : TypeId} (declared : t < w.types.size)
    {vs : List Value} (accepted : w.AcceptsAll (w.types.fieldKinds t) vs) {slot : Nat} {v : Value}
    (here : vs[slot]? = some v) : w.SlotSound t slot v := by
  obtain ⟨inside, rfl⟩ := List.getElem?_eq_some_iff.1 here
  have inside' : slot < (w.types.fieldKinds t).length := by rw [accepted.length_eq]; exact inside
  have numbered := typed.laidOut.slots t declared
  have found := mem_of_slot numbered (List.getElem?_eq_getElem inside')
  obtain ⟨owner, i, declares⟩ := TypeTable.exists_declares found
  exact ⟨owner, i, _, declares, fun _ _ _ => TypeTable.declares_unique numbered declares,
    (List.forall₂_iff_get.1 accepted).2 slot inside' inside⟩

theorem sound_of_holds {w : World Code Memory} (inv : w.Invariant) {v : Value}
    (held : w.Holds w.host.known v) : w.Sound v := by
  induction held with
  | cell stored => exact (inv.stored _).sound _ stored
  | other known => exact inv.known _ known
  | field _ inside ih =>
    cases ih with
    | struct _ _ fields => exact fields _ inside

theorem kindsSound_of_invariant {w : World Code Memory} (inv : w.Invariant) :
    w.KindsSound w.host.known := by
  refine ⟨fun a t slot v object here => ?_, fun t fields slot v held here => ?_,
    fun t slot v here => ?_⟩
  · have accepted := (inv.stored (.entity a)).accepted (w.types.fieldKinds t)
      (by rw [kindsOf, object])
    exact slotSound inv.typed (inv.typed.declared a t object) accepted
      (by rw [Array.getElem?_toList]; exact here)
  · cases sound_of_holds inv held with
    | struct declared accepted _ => exact slotSound inv.typed declared accepted here
  · have accepted := (inv.stored (.statics t)).accepted _ rfl
    have declared : t < w.types.size := by
      rw [← inv.typed.rows]
      exact inUse_of_read? (Option.isSome_iff_exists.2 ⟨v, here⟩)
    have numbered := inv.typed.laidOut.statics t declared
    have here' : (w.cells (.statics t)).toList[slot]? = some v := by
      rw [Array.getElem?_toList]
      exact here
    obtain ⟨inside, rfl⟩ := List.getElem?_eq_some_iff.1 here'
    have inside' : slot < (w.types.staticKinds t).length := by
      rw [accepted.length_eq]
      exact inside
    have found := mem_of_slot numbered (List.getElem?_eq_getElem inside')
    obtain ⟨i, declares⟩ := TypeTable.exists_declaresStatic found
    exact ⟨i, _, declares, fun _ _ => TypeTable.declaresStatic_unique numbered declares,
      (List.forall₂_iff_get.1 accepted).2 slot inside' inside⟩

end World

end ObjectGraph
