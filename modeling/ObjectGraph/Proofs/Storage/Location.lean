import ObjectGraph.Cursor
import ObjectGraph.Proofs.Outcome

/-!
# Locations

A location is one cell of a storage: a slot of an object, a static field, or an element of an
array or list. A successful access to a slot or an element concerns one location, and borrows its
storage only for as long as it takes.

1. `Overwritten`: one world is another one with a single location overwritten;
2. `outcome_readSlot`, `outcome_writeSlot`: access to a slot;
3. `seek_eq`, `outcome_elementAt`, `outcome_setElementAt`: access to an element is access to the
   location at its index, although it walks a cursor.
-/

namespace ObjectGraph

open ObjectGraph.Action

variable {Code Host α : Type}

/-- A cell of a storage. -/
structure Location where
  storage : StorageId
  index : Nat
deriving DecidableEq, Repr, Inhabited

namespace World

/-- The value at a location, if it exists. -/
def read? (w : World Code Host) (l : Location) : Option Value := (w.cells l.storage)[l.index]?

/-- Overwrites a location; one that does not exist is not created. -/
def write (w : World Code Host) (l : Location) (v : Value) : World Code Host :=
  w.modifyCells l.storage (·.setIfInBounds l.index v)

/-- What is at an address. -/
def shape? (w : World Code Host) (a : Address) : Option Shape := w.entities[a]?.map (·.shape)

/-- The type of an object depends on the shape at its address only. -/
theorem typeOf?_object (w : World Code Host) (a : Address) :
    w.typeOf? (.object a) = (w.shape? a).bind fun
      | .object t => some t
      | _ => none := by
  simp only [typeOf?, shape?]
  rcases w.entities[a]? with _ | ⟨shape, storage⟩
  · rfl
  · cases shape <;> rfl

theorem typeOf?_object_eq_some {w : World Code Host} {a : Address} {t : TypeId} :
    w.typeOf? (.object a) = some t ↔ w.shape? a = some (.object t) := by
  rw [typeOf?_object]
  rcases w.shape? a with _ | shape
  · simp
  · cases shape <;> simp

/-- The location exists and nobody is at work in its storage. -/
structure Writable (w : World Code Host) (l : Location) : Prop where
  existed : (w.read? l).isSome
  unused : w.borrow l.storage = .free

/-- `w.Overwritten l v w'`: the location `l` can be written in `w`, and `w'` is the world `w` with
`v` at `l` and no other difference. -/
structure Overwritten (w : World Code Host) (l : Location) (v : Value) (w' : World Code Host) :
    Prop where
  writable : w.Writable l
  written : w'.read? l = some v
  others : ∀ other, other ≠ l → w'.read? other = w.read? other
  sizes : ∀ id, (w'.cells id).size = (w.cells id).size
  borrows : ∀ id, w'.borrow id = w.borrow id
  shapes : ∀ a, w'.shape? a = w.shape? a
  statics : w'.statics.size = w.statics.size
  types : w'.types = w.types
  host : w'.host = w.host

/-! ## 1. Changing one storage -/

theorem shape?_update (w : World Code Host) (id : StorageId) (f : Storage → Storage)
    (a : Address) : (w.update id f).shape? a = w.shape? a := by
  cases id with
  | entity b =>
    simp only [shape?, update, Array.getElem?_modify]
    split <;> simp [Function.comp_def]
  | statics t => rfl

theorem update_update (w : World Code Host) (id : StorageId) (f g : Storage → Storage) :
    (w.update id f).update id g = w.update id (g ∘ f) := by
  cases id with
  | entity a =>
    have same : (w.entities.modify a fun e => { e with storage := f e.storage }).modify a
        (fun e => { e with storage := g e.storage }) =
        w.entities.modify a fun e => { e with storage := (g ∘ f) e.storage } := by
      apply Array.ext_getElem?
      intro i
      simp only [Array.getElem?_modify]
      split <;> simp [Function.comp_def]
    simp only [update, same]
  | statics t =>
    have same : (w.statics.modify t f).modify t g = w.statics.modify t (g ∘ f) := by
      apply Array.ext_getElem?
      intro i
      simp only [Array.getElem?_modify]
      split <;> simp
    simp only [update, same]

/-- A change of a storage counts for what it does to the storage as it is. -/
theorem update_congr {w : World Code Host} {id : StorageId} {f g : Storage → Storage}
    (h : w.inUse id → f (w.storage id) = g (w.storage id)) : w.update id f = w.update id g := by
  cases id with
  | entity a =>
    have same : (w.entities.modify a fun e => { e with storage := f e.storage }) =
        w.entities.modify a fun e => { e with storage := g e.storage } := by
      apply Array.ext_getElem?
      intro i
      simp only [Array.getElem?_modify]
      split
      · next here =>
        subst here
        rcases found : w.entities[a]? with _ | e
        · rfl
        · have used : a < w.entities.size := (Array.getElem?_eq_some_iff.1 found).1
          have agree : f e.storage = g e.storage := by simpa [storage, found] using h used
          rw [Option.map_some, Option.map_some, agree]
      · rfl
    simp only [update, same]
  | statics t =>
    have same : w.statics.modify t f = w.statics.modify t g := by
      apply Array.ext_getElem?
      intro i
      simp only [Array.getElem?_modify]
      split
      · next here =>
        subst here
        rcases found : w.statics[t]? with _ | row
        · rfl
        · have used : t < w.statics.size := (Array.getElem?_eq_some_iff.1 found).1
          have agree : f row = g row := by simpa [storage, found] using h used
          rw [Option.map_some, Option.map_some, agree]
      · rfl
    simp only [update, same]

theorem update_id (w : World Code Host) (id : StorageId) : (w.update id fun s => s) = w := by
  cases id with
  | entity a =>
    have same : (w.entities.modify a fun e => e) = w.entities := by
      apply Array.ext_getElem?
      simp [Array.getElem?_modify]
    simp only [update, same]
  | statics t =>
    have same : (w.statics.modify t fun s => s) = w.statics := by
      apply Array.ext_getElem?
      simp [Array.getElem?_modify]
    simp only [update, same]

/-- A change that leaves the storage itself as it is leaves the world as it is. -/
theorem update_eq_self {w : World Code Host} {id : StorageId} {f : Storage → Storage}
    (h : w.inUse id → f (w.storage id) = w.storage id) : w.update id f = w :=
  (update_congr h).trans (update_id w id)

theorem storage_of_unused {w : World Code Host} {id : StorageId} (unused : ¬ w.inUse id) :
    w.storage id = {} := by
  cases id <;> simp only [inUse, Nat.not_lt] at unused <;> simp [storage, unused]

/-- Giving a borrowed storage back leaves the world as it was before. -/
theorem setBorrow_release {w : World Code Host} {id : StorageId} {b : Borrow}
    (granted : b.release = w.borrow id) :
    (w.setBorrow id b).setBorrow id ((w.setBorrow id b).borrow id).release = w := by
  by_cases used : w.inUse id
  · rw [borrow_setBorrow_self b used, granted, setBorrow, setBorrow, update_update]
    exact update_eq_self fun _ => rfl
  · have unchanged (w' : World Code Host) (c : Borrow) (h : ¬ w'.inUse id) :
        w'.setBorrow id c = w' := update_eq_self fun h' => absurd h' h
    rw [unchanged w b used, unchanged w _ used]

/-- The same when the contents have been changed meanwhile. -/
theorem setBorrow_modifyCells_release {w : World Code Host} {id : StorageId} {b : Borrow}
    (granted : b.release = w.borrow id) (f : Array Value → Array Value) :
    ((w.setBorrow id b).modifyCells id f).setBorrow id ((w.setBorrow id b).borrow id).release =
      w.modifyCells id f := by
  have commute (w' : World Code Host) (c : Borrow) :
      (w'.modifyCells id f).setBorrow id c = (w'.setBorrow id c).modifyCells id f := by
    rw [setBorrow, setBorrow, modifyCells, modifyCells, update_update, update_update]
    rfl
  rw [commute, setBorrow_release granted]

theorem cells_of_unused {w : World Code Host} {id : StorageId} (unused : ¬ w.inUse id) :
    w.cells id = #[] := by
  rw [cells, storage_of_unused unused]

/-- Contents of the same length can be read back, also where there is no storage. -/
theorem cells_modifyCells_const {w : World Code Host} {id : StorageId} {now : Array Value}
    (size : now.size = (w.cells id).size) : (w.modifyCells id fun _ => now).cells id = now := by
  by_cases used : w.inUse id
  · exact cells_modifyCells_self _ used
  · rw [cells_of_unused used] at size
    have unchanged : (w.modifyCells id fun _ => now) = w := update_eq_self fun h => absurd h used
    rw [unchanged, cells_of_unused used, Array.size_eq_zero_iff.1 size]

theorem modifyCells_cells (w : World Code Host) (id : StorageId) :
    (w.modifyCells id fun _ => w.cells id) = w :=
  update_eq_self fun _ => rfl

theorem modifyCells_modifyCells_const (w : World Code Host) (id : StorageId)
    (now later : Array Value) :
    ((w.modifyCells id fun _ => now).modifyCells id fun _ => later) =
      w.modifyCells id fun _ => later :=
  update_update ..

theorem inUse_of_read? {w : World Code Host} {l : Location} (existed : (w.read? l).isSome) :
    w.inUse l.storage := by
  refine Classical.byContradiction fun unused => ?_
  simp [read?, cells_of_unused unused] at existed

theorem read?_isSome {w : World Code Host} {l : Location} :
    (w.read? l).isSome ↔ l.index < (w.cells l.storage).size := by
  simp [read?]

@[simp] theorem host_modifyCells (w : World Code Host) (id : StorageId)
    (f : Array Value → Array Value) : (w.modifyCells id f).host = w.host := host_update ..

@[simp] theorem host_write (w : World Code Host) (l : Location) (v : Value) :
    (w.write l v).host = w.host := host_update ..

/-- Writing to a location that exists overwrites it and nothing else. -/
theorem overwritten_write {w : World Code Host} {l : Location} (writable : w.Writable l)
    (v : Value) : w.Overwritten l v (w.write l v) := by
  have used := inUse_of_read? writable.existed
  have inside := read?_isSome.1 writable.existed
  have written := cells_modifyCells_self (·.setIfInBounds l.index v) used
  refine
    { writable
      written := by simp [read?, write, written, inside]
      others := ?_
      sizes := ?_
      borrows := fun id => borrow_modifyCells w l.storage id _
      shapes := ?_
      statics := ?_
      types := types_update ..
      host := host_write w l v }
  · rintro ⟨id, i⟩ different
    by_cases here : l.storage = id
    · subst here
      have apart : l.index ≠ i := fun same => different (by rw [← same])
      simp [read?, write, written, apart]
    · simp [read?, write, cells_modifyCells_of_ne w _ here]
  · intro id
    by_cases here : l.storage = id
    · subst here
      simp [write, written]
    · simp [write, cells_modifyCells_of_ne w _ here]
  · exact shape?_update w l.storage _
  · rcases l with ⟨a | id, i⟩
    · rfl
    · simp [write, modifyCells, update]

/-- Replacing the contents by what a change makes of them is that change. -/
theorem modifyCells_const {w : World Code Host} {id : StorageId} {cells : Array Value}
    {f : Array Value → Array Value} (h : cells = f (w.cells id)) :
    (w.modifyCells id fun _ => cells) = w.modifyCells id f :=
  update_congr fun _ => by rw [h]; rfl

end World

/-! ## 2. Slots -/

theorem claim?_eq_some_iff {b c : Borrow} : b.claim? = some c ↔ b = .free ∧ c = .exclusive := by
  unfold Borrow.claim? Borrow.free
  split <;> simp_all [eq_comm]

theorem share?_eq_none_iff {b : Borrow} : b.share? = none ↔ b = .exclusive := by
  cases b <;> simp [Borrow.share?]

/-- Reading a storage leaves the world alone, and is refused only while a writer is at work. -/
theorem outcome_withShared_pure (id : StorageId) (f : Array Value → α) (w : World Code Host) :
    (withShared id fun cells => pure (f cells)).outcome w =
      (if w.borrow id = .exclusive then .error .busy else .ok (f (w.cells id)), w) := by
  rw [outcome, run_withShared]
  rcases granted : (w.borrow id).share? with _ | borrowed
  · simp [share?_eq_none_iff.1 granted]
  · have shared : w.borrow id ≠ .exclusive := fun busy => by simp [busy, Borrow.share?] at granted
    simp [shared, World.setBorrow_release (Borrow.release_of_share? granted)]

/-- Writing a storage is refused while it is in use. Otherwise it is marked as being written for as
long as `body` runs. -/
theorem outcome_withExclusive (id : StorageId) (body : Action Code Host α) (w : World Code Host) :
    (withExclusive id body).outcome w =
      if w.borrow id = .free then
        let (a, w') := body.outcome (w.setBorrow id .exclusive)
        (.ok a, w'.setBorrow id (w'.borrow id).release)
      else (.error .busy, w) := by
  rw [outcome, run_withExclusive]
  rcases granted : (w.borrow id).claim? with _ | borrowed
  · have used : w.borrow id ≠ .free := fun free => by
      simp [free, Borrow.claim?, Borrow.free] at granted
    simp [used]
  · obtain ⟨free, rfl⟩ := claim?_eq_some_iff.1 granted
    simp [free, outcome]

theorem outcome_readSlot (id : StorageId) (slot : Nat) (w : World Code Host) :
    (readSlot id slot).outcome w =
      (if w.borrow id = .exclusive then .error .busy else slotOf (w.cells id) slot, w) := by
  rw [readSlot, outcome_bind, outcome_withShared_pure]
  by_cases busy : w.borrow id = .exclusive
  · simp [busy]
  · simp [busy]

/-- A write to a slot is refused while the storage is in use, and past its end. Otherwise it
overwrites one location. -/
theorem outcome_writeSlot (id : StorageId) (slot : Nat) (v : Value) (w : World Code Host) :
    (writeSlot id slot v).outcome w =
      if w.borrow id = .free then
        if slot < (w.cells id).size then (.ok (), w.write ⟨id, slot⟩ v)
        else (.error (.slotOutOfBounds slot (w.cells id).size), w)
      else (.error .busy, w) := by
  rw [writeSlot, outcome_bind, outcome_withExclusive]
  by_cases free : w.borrow id = .free
  · have back : Borrow.exclusive.release = w.borrow id := free.symm
    simp only [free, if_true, outcome_bind, outcome_gets, World.cells_setBorrow]
    by_cases inside : slot < (w.cells id).size
    · simp [inside, World.setBorrow_modifyCells_release back, World.write]
    · simp [inside, World.setBorrow_release back]
  · simp [free]

/-! ## 3. Elements -/

theorem outcome_elements (a : Address) (w : World Code Host) :
    (elements a).outcome w =
      (if w.borrow (.entity a) = .exclusive then .error .borrowed
        else .ok (w.cells (.entity a)), w) := by
  rw [elements, outcome_bind, outcome_withShared_pure]
  by_cases busy : w.borrow (.entity a) = .exclusive
  · simp [busy]
  · simp [busy]

theorem outcome_resize (a : Address) (f : Array Value → Array Value) (result : Array Value → α)
    (w : World Code Host) :
    (resize a f result).outcome w =
      if w.borrow (.entity a) = .free then
        (.ok (result (w.cells (.entity a))), w.modifyCells (.entity a) f)
      else (.error .borrowed, w) := by
  rw [resize, outcome_bind, outcome_withExclusive]
  by_cases free : w.borrow (.entity a) = .free
  · have back : Borrow.exclusive.release = w.borrow (.entity a) := free.symm
    simp [free, World.setBorrow_modifyCells_release back]
  · simp [free]

theorem walk_eq (elements : Array Value) (steps : Nat) (c : Cursor)
    (inside : c.visited ≤ elements.size) :
    Cursor.walk elements steps c =
      if c.visited + steps ≤ elements.size then .ok { visited := c.visited + steps }
      else .error { visited := elements.size } := by
  induction steps generalizing c with
  | zero => simp [Cursor.walk, inside]
  | succ steps ih =>
    rw [Cursor.walk, Cursor.advance]
    by_cases more : c.visited < elements.size
    · rw [if_pos more]
      simp only
      rw [ih _ more, show c.visited + 1 + steps = c.visited + (steps + 1) by omega]
    · have last : c.visited = elements.size := Nat.le_antisymm inside (Nat.le_of_not_lt more)
      rw [if_neg more, if_neg (by omega)]
      simp only [← last]

/-- A walk arrives at every index that the collection has, and otherwise ends with its length. -/
theorem seek_eq (elements : Array Value) (index : UInt64) :
    Cursor.seek elements index =
      if index.toNat < elements.size then .ok { visited := index.toNat + 1 }
      else .error (.outOfRange index.toNat elements.size) := by
  rw [Cursor.seek, walk_eq elements (index.toNat + 1) .start (Nat.zero_le _)]
  simp only [Cursor.start, Nat.zero_add]
  by_cases inside : index.toNat < elements.size
  · rw [if_pos inside, if_pos (Nat.succ_le_of_lt inside)]
  · rw [if_neg inside, if_neg (by omega)]

/-- The element at an index, or the failure to find one there. -/
def elementOf (elements : Array Value) (index : Nat) : Except ElementError Value :=
  match elements[index]? with
  | some v => .ok v
  | none => .error (.outOfRange index elements.size)

theorem outcome_elementAt (a : Address) (index : UInt64) (w : World Code Host) :
    (elementAt a index).outcome w =
      (if w.borrow (.entity a) = .exclusive then .error (.storage .busy)
        else elementOf (w.cells (.entity a)) index.toNat, w) := by
  rw [elementAt, outcome_bind, outcome_withShared_pure]
  split
  · rfl
  · simp only [seek_eq, elementOf]
    by_cases inside : index.toNat < (w.cells (.entity a)).size
    · simp [inside, Cursor.current?, Cursor.position?, flattenElement]
    · simp [inside, flattenElement]

theorem outcome_setElementAt (a : Address) (index : UInt64) (v : Value) (w : World Code Host) :
    (setElementAt a index v).outcome w =
      if w.borrow (.entity a) = .free then
        if index.toNat < (w.cells (.entity a)).size then
          (.ok (), w.write ⟨.entity a, index.toNat⟩ v)
        else (.error (.outOfRange index.toNat (w.cells (.entity a)).size), w)
      else (.error (.storage .busy), w) := by
  rw [setElementAt, outcome_bind, outcome_withExclusive]
  by_cases free : w.borrow (.entity a) = .free
  · have back : Borrow.exclusive.release = w.borrow (.entity a) := free.symm
    simp only [free, if_true, outcome_bind, outcome_gets, World.cells_setBorrow, seek_eq]
    by_cases inside : index.toNat < (w.cells (.entity a)).size
    · have constant : (w.setBorrow (.entity a) .exclusive).modifyCells (.entity a)
            (fun _ => (w.cells (.entity a)).setIfInBounds index.toNat v) =
          (w.setBorrow (.entity a) .exclusive).modifyCells (.entity a)
            (·.setIfInBounds index.toNat v) := World.modifyCells_const (by simp)
      simp [inside, Cursor.replace, Cursor.position?, constant,
        World.setBorrow_modifyCells_release back, World.write, flattenElement]
    · simp [inside, World.setBorrow_release back, flattenElement]
  · simp [free, flattenElement]

/-- A list of two numbers. -/
def twoNumbers : World Empty Unit :=
  { host := ()
    entities := #[{ shape := .list, storage := { cells := #[.int 1, .int 2] } }] }

end ObjectGraph
