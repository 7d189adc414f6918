import ObjectGraph.Type.Builder

/-!
# Worlds

A world holds everything that can change or grow: the declared types with their static fields,
the objects, arrays and lists created so far, and whatever the host program keeps for itself.

Each object, array and list has one storage, a row of values, and so has each type for its static
fields. A storage is free, borrowed by some number of readers, or borrowed by one writer. A
handle whose address is not in use names an empty, free storage that cannot change.
-/

namespace ObjectGraph

/-- How a storage is in use. -/
inductive Borrow where
  /-- Read by this many accesses; free if by none. -/
  | shared (readers : Nat)
  /-- Written by one access. -/
  | exclusive
deriving DecidableEq, Repr, Inhabited

namespace Borrow

def free : Borrow := .shared 0

/-- One reader more; refused while a writer is at work. -/
def share? : Borrow → Option Borrow
  | .shared n => some (.shared (n + 1))
  | .exclusive => none

/-- The only writer; refused while anyone is at work. -/
def claim? : Borrow → Option Borrow
  | .shared 0 => some .exclusive
  | _ => none

/-- One reader or the writer less. -/
def release : Borrow → Borrow
  | .shared n => .shared (n - 1)
  | .exclusive => .free

/-- Giving a storage back undoes having borrowed it. -/
theorem release_of_share? {b c : Borrow} (granted : b.share? = some c) : c.release = b := by
  cases b with
  | shared n => simp only [share?, Option.some.injEq] at granted; subst granted; rfl
  | exclusive => cases granted

theorem release_of_claim? {b c : Borrow} (granted : b.claim? = some c) : c.release = b := by
  unfold claim? at granted
  split at granted
  · cases granted; rfl
  · cases granted

end Borrow

/-- A row of values with its state of use. -/
structure Storage where
  cells : Array Value := #[]
  borrow : Borrow := .free
deriving Repr, Inhabited

/-- What a created storage belongs to. -/
inductive Shape where
  /-- The fields of an instance of a class. -/
  | object (type : TypeId)
  /-- The elements of an array, whose number is fixed. -/
  | array
  /-- The elements of a list. -/
  | list
deriving DecidableEq, Repr, Inhabited

/-- A created object, array or list. -/
structure Entity where
  shape : Shape
  storage : Storage
deriving Repr, Inhabited

/-- The name of a storage. -/
inductive StorageId where
  /-- The storage of an object, array or list. -/
  | entity (address : Address)
  /-- The static fields of a type. -/
  | statics (type : TypeId)
deriving DecidableEq, Repr, Inhabited

/-- The state of an object graph and of its host program. -/
structure World (Code Host : Type) where
  types : TypeTable Code := {}
  /-- The static fields of each declared type. -/
  statics : Array Storage := #[]
  entities : Array Entity := #[]
  host : Host
deriving Inhabited

namespace World

variable {Code Host : Type}

/-- The storage of a name. -/
def storage (w : World Code Host) : StorageId → Storage
  | .entity a => (w.entities[a]?.map (·.storage)).getD {}
  | .statics t => w.statics[t]?.getD {}

/-- Replaces a storage; a name that is not in use stays as it is. -/
def update (w : World Code Host) (id : StorageId) (f : Storage → Storage) : World Code Host :=
  match id with
  | .entity a =>
    { w with entities := w.entities.modify a fun e => { e with storage := f e.storage } }
  | .statics t => { w with statics := w.statics.modify t f }

/-- The contents of a storage. -/
def cells (w : World Code Host) (id : StorageId) : Array Value := (w.storage id).cells

/-- The state of use of a storage. -/
def borrow (w : World Code Host) (id : StorageId) : Borrow := (w.storage id).borrow

def setBorrow (w : World Code Host) (id : StorageId) (b : Borrow) : World Code Host :=
  w.update id fun s => { s with borrow := b }

def modifyCells (w : World Code Host) (id : StorageId) (f : Array Value → Array Value) :
    World Code Host :=
  w.update id fun s => { s with cells := f s.cells }

/-- Creates an entity. -/
def allocate (w : World Code Host) (shape : Shape) (cells : Array Value) :
    Address × World Code Host :=
  (w.entities.size, { w with entities := w.entities.push { shape, storage := { cells } } })

/-- The type of objects and structs; nothing for other values. -/
def typeOf? (w : World Code Host) : Value → Option TypeId
  | .struct t _ => some t
  | .object a =>
    match w.entities[a]? with
    | some { shape := .object t, .. } => some t
    | _ => none
  | _ => none

/-- The name of the type of objects and structs, and the sort of any other value. -/
def typeName (w : World Code Host) (v : Value) : String :=
  match w.typeOf? v with
  | some t => w.types.name t
  | none => v.tag.text

/-- A field of the kind may hold the value. Null is held by every kind of references, by strings
and by `any`. -/
def accepts (w : World Code Host) : ValueKind → Value → Bool
  | .any, _ => true
  | .bool, .bool _ => true
  | .int, .int _ => true
  | .float, .float _ => true
  | .char, .char _ => true
  | .struct t, .struct s _ => s == t
  | .object t, .object a =>
    match w.typeOf? (.object a) with
    | some s => w.types.isSubtype s t
    | none => false
  | .anyObject, .object _ => true
  | .str, .str _ => true
  | .array, .array _ => true
  | .list, .list _ => true
  | .str, .null | .object _, .null | .anyObject, .null | .array, .null | .list, .null => true
  | _, _ => false

/-- Declares a type. Its static fields get their storage. -/
def declare (w : World Code Host) (b : TypeBuilder Code) :
    Except BuildError (TypeId × World Code Host) :=
  match b.fault? w.types with
  | some e => .error e
  | none =>
    .ok (w.types.size,
      { w with
        types := w.types.add (b.describe w.types)
        statics := w.statics.push { cells := b.statics.toArray } })

/-! ## What a change of one storage leaves alone -/

/-- The name stands for a storage that exists. -/
def inUse (w : World Code Host) : StorageId → Prop
  | .entity a => a < w.entities.size
  | .statics t => t < w.statics.size

@[simp] theorem inUse_update (w : World Code Host) (id other : StorageId)
    (f : Storage → Storage) : (w.update id f).inUse other ↔ w.inUse other := by
  cases id <;> cases other <;> simp [inUse, update]

@[simp] theorem types_update (w : World Code Host) (id : StorageId) (f : Storage → Storage) :
    (w.update id f).types = w.types := by
  cases id <;> rfl

@[simp] theorem host_update (w : World Code Host) (id : StorageId) (f : Storage → Storage) :
    (w.update id f).host = w.host := by
  cases id <;> rfl

@[simp] theorem storage_update_self {w : World Code Host} {id : StorageId}
    (f : Storage → Storage) (used : w.inUse id) :
    (w.update id f).storage id = f (w.storage id) := by
  cases id <;> simp only [inUse] at used <;> simp [storage, update, used, Array.getElem_modify]

theorem storage_update_of_ne (w : World Code Host) {id other : StorageId}
    (f : Storage → Storage) (different : id ≠ other) :
    (w.update id f).storage other = w.storage other := by
  cases id <;> cases other <;> simp_all [storage, update, Array.getElem?_modify]

/-- Changing the state of use of a storage leaves all contents alone. -/
@[simp] theorem cells_setBorrow (w : World Code Host) (id other : StorageId) (b : Borrow) :
    (w.setBorrow id b).cells other = w.cells other := by
  cases id <;> cases other <;> simp only [cells, setBorrow, storage, update]
  · next a c =>
    simp only [Array.getElem?_modify]
    split <;> cases w.entities[c]? <;> simp_all
  · next t u =>
    simp only [Array.getElem?_modify]
    split <;> cases w.statics[u]? <;> simp_all

/-- Changing the contents of a storage leaves all states of use alone. -/
@[simp] theorem borrow_modifyCells (w : World Code Host) (id other : StorageId)
    (f : Array Value → Array Value) : (w.modifyCells id f).borrow other = w.borrow other := by
  cases id <;> cases other <;> simp only [borrow, modifyCells, storage, update]
  · next a c =>
    simp only [Array.getElem?_modify]
    split <;> cases w.entities[c]? <;> simp_all
  · next t u =>
    simp only [Array.getElem?_modify]
    split <;> cases w.statics[u]? <;> simp_all

theorem borrow_setBorrow_self {w : World Code Host} {id : StorageId} (b : Borrow)
    (used : w.inUse id) : (w.setBorrow id b).borrow id = b := by
  simp [borrow, setBorrow, used]

theorem borrow_setBorrow_of_ne (w : World Code Host) {id other : StorageId} (b : Borrow)
    (different : id ≠ other) : (w.setBorrow id b).borrow other = w.borrow other := by
  simp [borrow, setBorrow, storage_update_of_ne w _ different]

theorem cells_modifyCells_self {w : World Code Host} {id : StorageId}
    (f : Array Value → Array Value) (used : w.inUse id) :
    (w.modifyCells id f).cells id = f (w.cells id) := by
  simp [cells, modifyCells, used]

theorem cells_modifyCells_of_ne (w : World Code Host) {id other : StorageId}
    (f : Array Value → Array Value) (different : id ≠ other) :
    (w.modifyCells id f).cells other = w.cells other := by
  simp [cells, modifyCells, storage_update_of_ne w _ different]

/-- A created entity holds the values that it was created with. -/
theorem cells_allocate (w : World Code Host) (shape : Shape) (cells : Array Value) :
    (w.allocate shape cells).2.cells (.entity (w.allocate shape cells).1) = cells := by
  simp [allocate, World.cells, storage]

/-- Creating an entity leaves the storages that exist alone. -/
theorem storage_allocate {w : World Code Host} {id : StorageId} (shape : Shape)
    (cells : Array Value) (used : w.inUse id) :
    (w.allocate shape cells).2.storage id = w.storage id := by
  cases id with
  | entity a => simp only [inUse] at used; simp [allocate, storage, Array.getElem?_push_lt, used]
  | statics t => rfl

end World

end ObjectGraph
