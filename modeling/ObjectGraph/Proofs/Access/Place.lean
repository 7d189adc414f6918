import ObjectGraph.Access.PathAccess
import ObjectGraph.Proofs.Storage.Location

/-!
# The place that a token names

What a token stands for on a container is decided by the type of the container alone: a location
of some storage, a field of the container itself if that is a struct, code of the host, or
nothing. Reading and writing a token agree on it.

1. `Place`, `World.place`: what a token stands for;
2. `World.readAt`, `mem_of_readAt`, `outcome_readStep`: what reading gives where no code runs.
-/

namespace ObjectGraph

open ObjectGraph.Action

variable {Code Host : Type}

/-! ## 1. Places -/

/-- What a token stands for on a container. -/
inductive Place where
  /-- A slot of an object, a static field of the type that declares it, or an element. -/
  | cell (l : Location)
  /-- A field of the container itself, which is a struct. -/
  | part (slot : Nat)
  /-- A property or a method. -/
  | code
  | nowhere
deriving DecidableEq, Repr, Inhabited

namespace World

/-- The place of a field. A static field is in the storage of the type that declares it. -/
def fieldPlace (container : Value) (owner : TypeId) (isStatic : Bool) (slot : Nat) : Place :=
  if isStatic then .cell ⟨.statics owner, slot⟩
  else match container with
    | .object a => .cell ⟨.entity a, slot⟩
    | .struct .. => .part slot
    | _ => .nowhere

theorem fieldPlace_ne_code (container : Value) (owner : TypeId) (isStatic : Bool) (slot : Nat) :
    fieldPlace container owner isStatic slot ≠ .code := by
  cases isStatic with
  | true => exact nofun
  | false => cases container <;> exact nofun

/-- The place that a token names on a container. -/
def place (w : World Code Host) (container : Value) : Token → Place
  | .element index =>
    match container.collection? with
    | some a => .cell ⟨.entity a, index.toNat⟩
    | none => .nowhere
  | .member name =>
    match w.resolveOn container name with
    | .error _ => .nowhere
    | .ok { owner, member } =>
      match member.content with
      | .field slot _ => fieldPlace container owner member.isStatic slot
      | .property .. | .method _ => .code

theorem place_of_field {w : World Code Host} {container : Value} {name : String}
    {owner : TypeId} {member : Member Code} {slot : Nat} {kind : ValueKind}
    (found : w.resolveOn container name = .ok { owner, member })
    (content : member.content = .field slot kind) :
    w.place container (.member name) = fieldPlace container owner member.isStatic slot := by
  simp [place, found, content]

theorem place_of_property {w : World Code Host} {container : Value} {name : String}
    {owner : TypeId} {member : Member Code} {getter : Code} {setter : Option Code}
    (found : w.resolveOn container name = .ok { owner, member })
    (content : member.content = .property getter setter) :
    w.place container (.member name) = .code := by
  simp [place, found, content]

/-! ## 2. Reading without code -/

/-- The value in a slot of a storage, or why it cannot be read. -/
def slotAt (w : World Code Host) (id : StorageId) (slot : Nat) : Except AccessFault Value :=
  if w.borrow id = .exclusive then .error .reentrant
  else (slotOf (w.cells id) slot).mapError .ofStorage

/-- The value of a field, or why it cannot be read. -/
def fieldAt (w : World Code Host) (container : Value) (owner : TypeId) (isStatic : Bool)
    (slot : Nat) : Except AccessFault Value :=
  if isStatic then w.slotAt (.statics owner) slot
  else match container with
    | .object a => w.slotAt (.entity a) slot
    | .struct _ fields => (slotOf fields.toArray slot).mapError .ofStorage
    | _ => .error (.storage (.slotOutOfBounds slot 0))

/-- The value of an element, or why it cannot be read. -/
def indexAt (w : World Code Host) (a : Address) (index : Nat) : Except AccessFault Value :=
  if w.borrow (.entity a) = .exclusive then .error .reentrant
  else (elementOf (w.cells (.entity a)) index).mapError .ofElement

/-- What reading a token gives if it names no code. -/
def readAt (w : World Code Host) (container : Value) (token : Token) : Except AccessFault Value :=
  if container.isNull then .error .nullIntermediate
  else match token with
    | .element index =>
      match container.collection? with
      | some a => w.indexAt a index.toNat
      | none => .error (.notCollection container.tag)
    | .member name =>
      match w.resolveOn container name with
      | .error fault => .error fault
      | .ok { owner, member } =>
        match member.content with
        | .field slot _ => w.fieldAt container owner member.isStatic slot
        | .property .. | .method _ => .error .nullIntermediate

theorem resolveMember_of_resolveOn {w : World Code Host} {container : Value} {name : String}
    {member : ResolvedMember Code} (h : w.resolveOn container name = .ok member) :
    ∃ t, w.typeOf? container = some t ∧ w.types.resolveMember t name = some member := by
  unfold resolveOn at h
  split at h
  · next found =>
    cases h
    exact Option.bind_eq_some_iff.1 found
  · cases h

theorem isNull_of_resolveOn {w : World Code Host} {container : Value} {name : String}
    {member : ResolvedMember Code} (found : w.resolveOn container name = .ok member) :
    container.isNull = false := by
  cases container with
  | null => cases found
  | _ => rfl

theorem isNull_of_collection? {container : Value} {a : Address}
    (collection : container.collection? = some a) : container.isNull = false := by
  cases container with
  | null => cases collection
  | _ => rfl

theorem readAt_of_field {w : World Code Host} {container : Value} {name : String}
    {owner : TypeId} {member : Member Code} {slot : Nat} {kind : ValueKind}
    (found : w.resolveOn container name = .ok { owner, member })
    (content : member.content = .field slot kind) :
    w.readAt container (.member name) = w.fieldAt container owner member.isStatic slot := by
  simp [readAt, isNull_of_resolveOn found, found, content]

theorem readAt_of_collection {container : Value} {a : Address}
    (collection : container.collection? = some a) (w : World Code Host) (index : UInt64) :
    w.readAt container (.element index) = w.indexAt a index.toNat := by
  simp [readAt, isNull_of_collection? collection, collection]

end World

theorem getElem?_of_slotOf {cells : Array Value} {slot : Nat} {v : Value}
    (h : slotOf cells slot = .ok v) : cells[slot]? = some v := by
  unfold slotOf at h
  rcases here : cells[slot]? with _ | u
  · simp [here] at h
  · rw [here] at h
    cases h
    rfl

theorem getElem?_of_elementOf {cells : Array Value} {index : Nat} {v : Value}
    (h : elementOf cells index = .ok v) : cells[index]? = some v := by
  unfold elementOf at h
  rcases here : cells[index]? with _ | u
  · simp [here] at h
  · rw [here] at h
    cases h
    rfl

theorem mem_of_slotOf {cells : Array Value} {slot : Nat} {v : Value}
    (h : slotOf cells slot = .ok v) : v ∈ cells :=
  Array.mem_of_getElem? (getElem?_of_slotOf h)

theorem mem_of_elementOf {cells : Array Value} {index : Nat} {v : Value}
    (h : elementOf cells index = .ok v) : v ∈ cells :=
  Array.mem_of_getElem? (getElem?_of_elementOf h)

theorem eq_ok_of_mapError {α ε ε' : Type} {f : ε → ε'} {result : Except ε α} {a : α}
    (h : result.mapError f = .ok a) : result = .ok a := by
  rcases result with e | b
  · cases h
  · cases h
    rfl

namespace World

theorem mem_of_slotAt {w : World Code Host} {id : StorageId} {slot : Nat} {v : Value}
    (h : w.slotAt id slot = .ok v) : v ∈ w.cells id := by
  unfold slotAt at h
  split at h
  · cases h
  · exact mem_of_slotOf (eq_ok_of_mapError h)

/-- What is read without code is in a storage, or in the container itself. -/
theorem mem_of_readAt {w : World Code Host} {container : Value} {token : Token} {v : Value}
    (h : w.readAt container token = .ok v) :
    (∃ id, v ∈ w.cells id) ∨ ∃ t fields, container = .struct t fields ∧ v ∈ fields := by
  cases token with
  | element index =>
    rcases collection : container.collection? with _ | a
    · unfold readAt at h
      split at h
      · cases h
      · simp [collection] at h
    · rw [readAt_of_collection collection, indexAt] at h
      split at h
      · cases h
      · exact .inl ⟨_, mem_of_elementOf (eq_ok_of_mapError h)⟩
  | member name =>
    unfold readAt at h
    split at h
    · cases h
    rcases found : w.resolveOn container name with fault | ⟨owner, member⟩
    · simp [found] at h
    rcases content : member.content with ⟨slot, kind⟩ | _ | _
    · simp only [found, content, fieldAt] at h
      split at h
      · exact .inl ⟨_, mem_of_slotAt h⟩
      · cases container with
        | object a => exact .inl ⟨_, mem_of_slotAt h⟩
        | struct t fields =>
          have inside := mem_of_slotOf (eq_ok_of_mapError h)
          exact .inr ⟨t, fields, rfl, List.mem_toArray.1 inside⟩
        | _ => cases h
    · simp [found, content] at h
    · simp [found, content] at h

end World

theorem outcome_readSlot_mapError (id : StorageId) (slot : Nat) (w : World Code Host) :
    (do return (← readSlot id slot).mapError .ofStorage :
      Action Code Host (Except AccessFault Value)).outcome w = (w.slotAt id slot, w) := by
  rw [outcome_bind, outcome_readSlot, World.slotAt]
  split <;> rfl

/-- A step that names no code gives what stands at its place, and leaves the world alone. -/
theorem outcome_readStep (beh : Behaviour Code Host) (options : AccessOptions) {w : World Code Host}
    {container : Value} {token : Token} (plain : w.place container token ≠ .code) :
    (readStep beh options container token).outcome w = (w.readAt container token, w) := by
  unfold readStep World.readAt
  by_cases null : container.isNull = true
  · simp [null]
  rw [if_neg null, if_neg null]
  cases token with
  | element index =>
    simp only [readElement]
    rcases container.collection? with _ | a
    · rfl
    · simp only [outcome_bind, outcome_elementAt, World.indexAt]
      split <;> rfl
  | member name =>
    simp only [World.place] at plain
    simp only [readMember, outcome_bind, outcome_getWorld]
    rcases found : w.resolveOn container name with fault | ⟨owner, member⟩
    · rfl
    rw [found] at plain
    rcases content : member.content with ⟨slot, kind⟩ | ⟨getter, setter⟩ | ⟨call⟩
    · simp only [content, World.fieldAt]
      split
      · exact outcome_readSlot_mapError (.statics owner) slot w
      · cases container with
        | object a => exact outcome_readSlot_mapError (.entity a) slot w
        | _ => rfl
    · simp [content] at plain
    · simp [content] at plain

end ObjectGraph
