import ObjectGraph.Proofs.Access.Faults
import ObjectGraph.Proofs.Access.Visibility
import ObjectGraph.Proofs.Client.Program

/-!
# Writing back what was read

What stands at a place that can be written is accepted there. So the value that a path leads to can
be written back along the path wherever the path ends in a storage, and that changes nothing at all,
whatever the value is. Where it ends in a field of a struct, the struct that has been reached is a
copy, and the write is refused.

1. `World.Accepted`: stored values are accepted by the kinds of their fields;
2. `World.SelectsShared`, `World.SelectsCopy`, `selects_of_readAt`: where a token that can be read
   leads to;
3. `outcome_apply_of_held`, `outcome_apply_of_copy`: writing back one token;
4. `set_of_getValue`: writing back along a path.
-/

namespace ObjectGraph

open ObjectGraph.Action PathAccess

variable {Code Host : Type}

namespace World

/-! ## 1. Accepted values -/

/-- Every value in a slot of an object, and in a static slot, is accepted by the kind of each field
that is declared for the slot. -/
structure Accepted (w : World Code Host) : Prop where
  objects : ∀ a t slot v owner i kind, w.shape? a = some (.object t) →
    w.read? ⟨.entity a, slot⟩ = some v → w.types.Declares t slot owner i kind →
    w.accepts kind v = true
  statics : ∀ t slot v i kind, w.read? ⟨.statics t, slot⟩ = some v →
    w.types.DeclaresStatic t slot i kind → w.accepts kind v = true

/-- Where all kinds are sound, stored values are accepted. -/
theorem KindsSound.stored_accepted {w : World Code Host} {others : List Value}
    (sound : w.KindsSound others) : w.Accepted := by
  constructor
  · intro a t slot v owner i kind shape held declares
    obtain ⟨owner', i', kind', declares', only, accepted⟩ := sound.objects a t slot v shape held
    obtain ⟨rfl, rfl⟩ := only owner i kind declares
    rwa [← declares.kind_unique declares']
  · intro t slot v i kind held declares
    obtain ⟨i', kind', declares', only, accepted⟩ := sound.statics t slot v held
    obtain rfl := only i kind declares
    rwa [← declares.kind_unique declares']

/-- What a field holds suits the field. -/
theorem Accepted.suits {w : World Code Host} (accepted : w.Accepted) {container : Value}
    {token : Token} {l : Location} {v : Value} (here : w.place container token = .cell l)
    (held : w.read? l = some v) : DeferredWrite.Suits w container token v := by
  rintro name owner member slot kind rfl found content
  rw [place_of_field found content] at here
  obtain ⟨t, type, resolved⟩ := resolveMember_of_resolveOn found
  obtain ⟨derived, declared⟩ := TypeTable.mem_of_resolveMember resolved
  obtain ⟨i, position⟩ := List.mem_iff_getElem?.1 declared
  rcases fieldPlace_eq_cell here with ⟨static, rfl⟩ | ⟨notStatic, a, rfl, rfl⟩
  · have field : member.staticField? = some (slot, kind) := by
      simp [Member.staticField?, static, content]
    exact accepted.statics owner slot v i kind held ⟨member, position, field⟩
  · have field : member.instanceField? = some (slot, kind) := by
      simp [Member.instanceField?, notStatic, content]
    exact accepted.objects a t slot v owner i kind (typeOf?_object_eq_some.1 type) held
      ⟨derived, member, position, field⟩

/-! ## 2. Where a token leads to -/

/-- The token selects an element, a static field, or a field of an object. -/
inductive SelectsShared (w : World Code Host) (container : Value) : Token → Prop
  | element {index : UInt64} {a : Address} : container.collection? = some a →
      SelectsShared w container (.element index)
  | static {name : String} {owner : TypeId} {member : Member Code} {slot : Nat}
      {kind : ValueKind} : w.resolveOn container name = .ok { owner, member } →
      member.content = .field slot kind → member.isStatic = true →
      SelectsShared w container (.member name)
  | object {name : String} {owner : TypeId} {member : Member Code} {slot : Nat}
      {kind : ValueKind} {a : Address} : w.resolveOn container name = .ok { owner, member } →
      member.content = .field slot kind → member.isStatic = false → container = .object a →
      SelectsShared w container (.member name)

/-- The token selects a field of a struct. -/
inductive SelectsCopy (w : World Code Host) (container : Value) : Token → Prop
  | field {name : String} {owner : TypeId} {member : Member Code} {slot : Nat} {kind : ValueKind}
      {t : TypeId} {fields : List Value} : w.resolveOn container name = .ok { owner, member } →
      member.content = .field slot kind → member.isStatic = false → container = .struct t fields →
      SelectsCopy w container (.member name)

variable {w : World Code Host} {container : Value} {token : Token} {v : Value}

/-- What is shared is a location. -/
theorem selectsShared_iff :
    w.SelectsShared container token ↔ ∃ l, w.place container token = .cell l := by
  constructor
  · rintro (⟨collection⟩ | ⟨found, content, static⟩ | ⟨found, content, notStatic, rfl⟩)
    · exact ⟨_, by rw [place, collection]⟩
    · exact ⟨_, by rw [place_of_field found content, static]; rfl⟩
    · exact ⟨_, by rw [place_of_field found content, notStatic]; rfl⟩
  · rintro ⟨l, here⟩
    rcases place_eq_cell here with ⟨index, a, rfl, collection, -⟩ |
      ⟨name, owner, member, slot, kind, rfl, found, content, place⟩
    · exact .element collection
    · rcases fieldPlace_eq_cell place with ⟨static, -⟩ | ⟨notStatic, a, same, -⟩
      · exact .static found content static
      · exact .object found content notStatic same

theorem SelectsCopy.not_shared (copy : w.SelectsCopy container token) :
    ¬ w.SelectsShared container token := by
  intro shared
  obtain ⟨l, here⟩ := selectsShared_iff.1 shared
  obtain ⟨found, content, notStatic, rfl⟩ := copy
  rw [place_of_field found content, notStatic] at here
  cases here

theorem read?_of_slotAt {id : StorageId} {slot : Nat} (h : w.slotAt id slot = .ok v) :
    w.read? ⟨id, slot⟩ = some v := by
  unfold slotAt at h
  split at h
  · cases h
  · exact getElem?_of_slotOf (eq_ok_of_mapError h)

theorem read?_of_indexAt {a : Address} {index : Nat} (h : w.indexAt a index = .ok v) :
    w.read? ⟨.entity a, index⟩ = some v := by
  unfold indexAt at h
  split at h
  · cases h
  · exact getElem?_of_elementOf (eq_ok_of_mapError h)

/-- A token that can be read without code leads to a location, which holds the value, or to a field
of a struct. -/
theorem selects_of_readAt (h : w.readAt container token = .ok v) :
    (∃ l, w.place container token = .cell l ∧ w.read? l = some v) ∨
      w.SelectsCopy container token := by
  unfold readAt at h
  split at h
  · cases h
  cases token with
  | element index =>
    rcases collection : container.collection? with _ | a
    · simp [collection] at h
    · simp only [collection] at h
      exact .inl ⟨⟨.entity a, index.toNat⟩, by rw [place, collection], read?_of_indexAt h⟩
  | member name =>
    rcases found : w.resolveOn container name with fault | ⟨owner, member⟩
    · simp [found] at h
    rcases content : member.content with ⟨slot, kind⟩ | _ | _
    · simp only [found, content, fieldAt] at h
      rw [place_of_field found content]
      rcases static : member.isStatic with _ | _
      · rw [static, if_neg Bool.false_ne_true] at h
        cases container with
        | object a => exact .inl ⟨_, rfl, read?_of_slotAt h⟩
        | struct t fields => exact .inr (.field found content static rfl)
        | _ => cases h
      · rw [static, if_pos rfl] at h
        exact .inl ⟨_, rfl, read?_of_slotAt h⟩
    · simp [found, content] at h
    · simp [found, content] at h

/-- Writing what a location holds changes nothing. -/
theorem write_eq_self {l : Location} (held : w.read? l = some v) : w.write l v = w := by
  rw [write, modifyCells]
  refine update_eq_self fun _ => ?_
  have same : (w.cells l.storage).setIfInBounds l.index v = w.cells l.storage := by
    apply Array.ext_getElem?
    intro i
    rw [Array.getElem?_setIfInBounds]
    split
    · next here =>
      subst here
      have cell : (w.cells l.storage)[l.index]? = some v := held
      obtain ⟨inside, -⟩ := Array.getElem?_eq_some_iff.1 cell
      rw [if_pos inside, cell]
    · rfl
  exact congrArg (fun cells => { w.storage l.storage with cells }) same

end World

/-! ## 3. One token -/

variable {w : World Code Host} {container : Value} {token : Token} {v : Value}

/-- A value that suits a location which can be written is written. -/
theorem DeferredWrite.outcome_apply_of_suits (beh : Behaviour Code Host) {l : Location}
    (here : w.place container token = .cell l) (writable : w.Writable l)
    (suits : Suits w container token v) :
    (apply beh ⟨container, token⟩ v).outcome w = (.ok (), w.write l v) := by
  have notNull := World.isNull_of_place here
  have inside := World.read?_isSome.1 writable.existed
  rcases World.place_eq_cell here with ⟨index, a, rfl, collection, rfl⟩ |
    ⟨name, owner, member, slot, kind, rfl, found, content, place⟩
  · rw [outcome_apply_element beh collection, outcome_setElementAt, if_pos writable.unused,
      if_pos inside]
    rfl
  · have accepted := suits name owner member slot kind rfl found content
    rw [apply_member beh notNull, outcome_writeMember_field beh v found content, accepted]
    rcases World.fieldPlace_eq_cell place with ⟨static, rfl⟩ | ⟨notStatic, a, rfl, rfl⟩
    · have observable : isObservable member container = true := by simp [isObservable, static]
      rw [observable, if_neg Bool.noConfusion, if_neg Bool.noConfusion, if_pos static,
        outcome_writeSlot, if_pos writable.unused, if_pos inside]
      rfl
    · have observable : isObservable member (.object a) = true := by
        simp [isObservable, Value.isByValue]
      rw [observable, if_neg Bool.noConfusion, if_neg Bool.noConfusion, notStatic,
        if_neg Bool.noConfusion, writeInstanceSlot, outcome_bind, outcome_writeSlot,
        if_pos writable.unused, if_pos inside]
      rfl

/-- What stands at a location can be written back there, and nothing changes. -/
theorem outcome_apply_of_held (beh : Behaviour Code Host) {l : Location}
    (accepted : w.Accepted) (unused : w.borrow l.storage = .free)
    (here : w.place container token = .cell l) (held : w.read? l = some v) :
    (DeferredWrite.apply beh ⟨container, token⟩ v).outcome w = (.ok (), w) := by
  have writable : w.Writable l := ⟨by rw [held]; rfl, unused⟩
  rw [DeferredWrite.outcome_apply_of_suits beh here writable (accepted.suits here held),
    World.write_eq_self held]

/-- No value can be written to a field of a struct. -/
theorem outcome_apply_of_copy (beh : Behaviour Code Host) (v : Value)
    (copy : w.SelectsCopy container token) :
    (DeferredWrite.apply beh ⟨container, token⟩ v).outcome w =
      (.error (.immutableContainer (w.typeName container)), w) := by
  obtain ⟨found, content, notStatic, rfl⟩ := copy
  rw [DeferredWrite.apply_member beh rfl,
    DeferredWrite.outcome_writeMember_field beh v found content, if_pos]
  · rfl
  · simp [DeferredWrite.isObservable, notStatic, Value.isByValue]

/-! ## 4. Paths -/

/-- A path with at least one token that has been read without code: all tokens but the last lead to
a container, and the last one has been read from there. The world is as it was. -/
theorem getValue_split {beh : Behaviour Code Host} {options : AccessOptions} {root : Value}
    {path : String} {w' : World Code Host}
    (read : (getValue beh options root path).outcome w = (.ok v, w'))
    (some_token : (scanPath path).tokens ≠ [])
    (plain : .code ∉ w.visits root (scanPath path).tokens) :
    w' = w ∧ (scanPath path).error = none ∧ ∃ front last reached,
      (scanPath path).tokens = front ++ [last] ∧
      (walk beh options none root front).outcome w = (.ok reached, w) ∧
      w.readAt reached last.token = .ok v := by
  rcases List.eq_nil_or_concat (scanPath path).tokens with empty | ⟨front, last, whole⟩
  · exact absurd empty some_token
  rw [List.concat_eq_append] at whole
  rw [outcome_getValue, whole, walk_append] at read
  rw [whole] at plain
  have plainFront : .code ∉ w.visits root front :=
    fun code => plain ((w.visits_prefix root front [last]).subset code)
  obtain ⟨result, walked, onwards⟩ := walk_plain beh options plainFront
  rw [walked] at read
  rcases result with e | reached
  · cases read
  rw [onwards reached rfl, World.visits] at plain
  have plainLast : w.place reached last.token ≠ .code := fun code =>
    plain (List.mem_append_right _ (by rw [code]; exact List.mem_cons_self))
  simp only [walk, outcome_bind, outcome_step_plain beh options plainLast] at read
  rcases found : w.readAt reached last.token with fault | u
  · rw [found] at read
    cases read
  rw [found] at read
  rcases malformed : (scanPath path).error with _ | e
  · rw [malformed] at read
    cases read
    exact ⟨rfl, rfl, front, last, reached, whole, walked, found⟩
  · rw [malformed] at read
    cases read

/-- Writing back what was read is no change.

Let nothing be borrowed, let all stored values be accepted by their fields, and let a path of at
least one token be read, each token naming a field or an element. Setting the value that was read
along the same path succeeds if and only if the last token selects something that is shared: an
element, a static field, or a field of an object. Otherwise it selects a field of a struct, and the
write is refused at the last token. In both cases the world is exactly as it was, and so it was
after reading. -/
theorem set_of_getValue {beh : Behaviour Code Host} {options : AccessOptions} {root : Value}
    {path : String} {w' : World Code Host} (idle : ∀ id, w.borrow id = .free)
    (accepted : w.Accepted) (some_token : (scanPath path).tokens ≠ [])
    (plain : .code ∉ w.visits root (scanPath path).tokens)
    (read : (getValue beh options root path).outcome w = (.ok v, w')) :
    w' = w ∧ ∃ front last container, (scanPath path).tokens = front ++ [last] ∧
      (walk beh options none root front).outcome w = (.ok container, w) ∧
      (((set beh options root path v).outcome w).1 = .ok () ↔
        w.SelectsShared container last.token) ∧
      (w.SelectsShared container last.token →
        (set beh options root path v).outcome w = (.ok (), w)) ∧
      (¬ w.SelectsShared container last.token → w.SelectsCopy container last.token ∧
        (set beh options root path v).outcome w =
          (.error (.atToken last (.immutableContainer (w.typeName container))), w)) := by
  obtain ⟨same, sound, front, last, container, whole, walked, found⟩ :=
    getValue_split read some_token plain
  have written := outcome_set_of_tokens beh options whole root v w
  rw [walked, sound] at written
  simp only [write, writeLast, outcome_bind, outcome_record] at written
  refine ⟨same, front, last, container, whole, walked, ?_⟩
  rcases World.selects_of_readAt found with ⟨l, here, held⟩ | copy
  · have shared := World.selectsShared_iff.2 ⟨l, here⟩
    rw [outcome_apply_of_held beh accepted (idle l.storage) here held] at written
    rw [written]
    exact ⟨⟨fun _ => shared, fun _ => rfl⟩, fun _ => rfl, fun hidden => absurd shared hidden⟩
  · rw [outcome_apply_of_copy beh v copy] at written
    have hidden := copy.not_shared
    rw [written]
    exact ⟨⟨by rintro ⟨⟩, fun shared => absurd shared hidden⟩, fun shared => absurd shared hidden,
      fun _ => ⟨copy, rfl⟩⟩

/-- A value that is not equal to itself. -/
def nan : Value := .float ⟨0x7ff8000000000000⟩

/-- A node that is its own successor and holds a struct with `nan`. -/
def mirror : World Empty Unit :=
  let types : TypeTable Empty := TypeTable.add {}
    ((TypeBuilder.ofClauses .value "Point" [.field "x" .float]).describe {})
  let types := types.add ((TypeBuilder.ofClauses .reference "Node"
    [.field "next" .anyObject, .field "at" (.struct 0)]).describe types)
  { types
    statics := #[{}, {}]
    entities := #[{ shape := .object 1, storage := { cells := #[.object 0, .struct 0 [nan]] } }]
    host := () }

theorem accepted_mirror : mirror.Accepted := by
  constructor
  · rintro a t slot v owner i kind shape held ⟨derived, member, here, field⟩
    rcases a with _ | a
    · obtain rfl : 1 = t := by simpa [World.shape?, mirror] using shape
      have chain : mirror.types.ancestors 1 = [1] := rfl
      obtain rfl := List.mem_singleton.1 (chain ▸ derived)
      rcases i with _ | _ | i
      · cases here
        cases field
        cases held
        rfl
      · cases here
        cases field
        cases held
        rfl
      · cases here
    · simp [World.shape?, mirror] at shape
  · intro t slot v i kind held
    rcases t with _ | _ | t <;> simp [World.read?, World.cells, World.storage, mirror] at held

theorem idle_mirror (id : StorageId) : mirror.borrow id = .free := by
  rcases id with a | t
  · rcases a with _ | a <;> simp [World.borrow, World.storage, mirror]
  · rcases t with _ | _ | t <;> simp [World.borrow, World.storage, mirror]

theorem set_of_getValue_mirror :
    (set .idle {} (.object 0) "next.at" (.struct 0 [nan])).outcome mirror = (.ok (), mirror) ∧
      (set .idle {} (.object 0) "next.at.x" nan).outcome mirror =
        (.error (.atToken ⟨.member "x", 8⟩ (.immutableContainer "Point")), mirror) := by
  have at_tokens : (scanPath "next.at").tokens = [⟨.member "next", 0⟩] ++ [⟨.member "at", 5⟩] := by
    decide +kernel
  have x_tokens : (scanPath "next.at.x").tokens =
      [⟨.member "next", 0⟩, ⟨.member "at", 5⟩] ++ [⟨.member "x", 8⟩] := by
    decide +kernel
  have at_read : (getValue .idle {} (.object 0) "next.at").outcome mirror =
      (.ok (.struct 0 [nan]), mirror) := by
    rw [outcome_getValue, at_tokens, show (scanPath "next.at").error = none by decide +kernel]
    rfl
  have x_read : (getValue .idle {} (.object 0) "next.at.x").outcome mirror = (.ok nan, mirror) := by
    rw [outcome_getValue, x_tokens, show (scanPath "next.at.x").error = none by decide +kernel]
    rfl
  obtain ⟨-, _, _, container, whole, walked, -, written, -⟩ :=
    set_of_getValue idle_mirror accepted_mirror (by simp [at_tokens])
      (by rw [at_tokens]; decide +kernel) at_read
  obtain ⟨rfl, same⟩ := List.append_inj' (at_tokens.symm.trans whole) rfl
  cases same
  cases walked
  obtain ⟨-, _, _, container, whole, walked, -, -, refused⟩ :=
    set_of_getValue idle_mirror accepted_mirror (by simp [x_tokens])
      (by rw [x_tokens]; decide +kernel) x_read
  obtain ⟨rfl, same⟩ := List.append_inj' (x_tokens.symm.trans whole) rfl
  cases same
  cases walked
  refine ⟨written (World.selectsShared_iff.2 ⟨⟨.entity 0, 1⟩, rfl⟩), (refused ?_).2⟩
  intro shared
  obtain ⟨l, here⟩ := World.selectsShared_iff.1 shared
  cases here

end ObjectGraph
