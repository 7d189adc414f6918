import Mathlib.Data.List.Forall2
import ObjectGraph.Export.Tree

/-!
# What an export says about a graph

A value and all that can be reached from it unfold into a tree, which is infinite if the graph has
a cycle. A position of the tree is the list of the numbers of the branches that lead there. In the
order of an export a node comes before what is below it, and a branch before the next one; that is
the lexicographic order of positions.

An export visits positions in that order and stops at the first offending one: a node that is too
deep, or one whose storage is being written. So it succeeds if and only if no position offends.
As the depth is bounded this also decides whether the part of the graph that it looks at is free
of cycles.

1. `World.children`, `World.assemble`: one level of the unfolding;
2. `World.nodeAt?`, `World.offence?`: the positions of the whole;
3. `node_eq`: one level of an export, and `exportAt_eq`: its recursion;
4. `Export.Runs`: the recursion with a counter of 64 bits, which never overflows (`runs_iff`);
5. `exportAt_error_first`, `unfolds_of_exportAt`: failures and results;
6. `exportAt_of_isLocked`, `exists_locked_of_exportAt`: storages that are being written;
7. `exportAt_spec`: all of it together.
-/

namespace ObjectGraph

variable {Code Host : Type}

/-! ## 1. One level of an unfolding -/

namespace World

/-- The keys of an object or a struct, with their slots. -/
def keys (w : World Code Host) (v : Value) : List (String × Nat) :=
  match w.typeOf? v with
  | some t => w.types.instanceFieldKeys t
  | none => []

/-- The slots of an object or a struct. -/
def slots (w : World Code Host) : Value → Array Value
  | .struct _ fields => fields.toArray
  | .object a => w.cells (.entity a)
  | _ => #[]

/-- The values that a node of the unfolding branches into: the slots of an object or a struct in
the order of its keys, the elements of an array or a list, and nothing for any other value. -/
def children (w : World Code Host) : Value → List Value
  | .array a | .list a => (w.cells (.entity a)).toList
  | v => (w.keys v).filterMap fun key => (w.slots v)[key.2]?

/-- The tree of a node over the trees of what it branches into. -/
def assemble (w : World Code Host) : Value → List Tree → Tree
  | .null, _ => .none
  | .bool b, _ => .bool b
  | .int n, _ => .int n
  | .float x, _ => .float x
  | .char c, _ => .char c
  | .str s, _ => .str s
  | .array _, trees | .list _, trees => .seq trees
  | v, trees => .map (((w.keys v).map (·.1)).zip trees)

/-- An object, array or list whose storage is being written. -/
def isLocked (w : World Code Host) (v : Value) : Bool :=
  v.address?.any fun a => w.borrow (.entity a) == .exclusive

/-- An object or a struct with a slot for each of its keys. Other values have no keys. -/
def Stocked (w : World Code Host) (v : Value) : Prop :=
  ∀ key ∈ w.keys v, key.2 < (w.slots v).size

/-! ## 2. Positions -/

/-- The value at a position of the unfolding. -/
def nodeAt? (w : World Code Host) : Value → List Nat → Option Value
  | v, [] => some v
  | v, i :: position => (w.children v)[i]?.bind fun u => nodeAt? w u position

/-- Every object and struct in the unfolding has its slots. This is so for all values of all worlds
that the operations lead to (`intact_final`). -/
def Intact (w : World Code Host) (v : Value) : Prop :=
  ∀ position u, w.nodeAt? v position = some u → w.Stocked u

/-- What is wrong with a node for an export that arrives at it at a depth. -/
def fault? (w : World Code Host) (depth : Nat) (v : Value) : Option ExportError :=
  if maxDepth < depth then some .tooDeep else if w.isLocked v then some .busy else none

/-- What is wrong with the node at a position, for an export that starts at a depth. -/
def offence? (w : World Code Host) (depth : Nat) (v : Value) (position : List Nat) :
    Option ExportError :=
  (w.nodeAt? v position).bind (w.fault? (depth + position.length))

theorem Intact.child {w : World Code Host} {v u : Value} (intact : w.Intact v)
    (below : u ∈ w.children v) : w.Intact u := by
  intro position x found
  obtain ⟨i, branch⟩ := List.mem_iff_getElem?.1 below
  refine intact (i :: position) x ?_
  rw [nodeAt?, branch]
  exact found

/-- A set of stocked values that holds all that they branch into is intact. -/
theorem intact_of_closed {w : World Code Host} (good : Value → Prop)
    (stocked : ∀ v, good v → w.Stocked v) (closed : ∀ v, good v → ∀ u ∈ w.children v, good u)
    {v : Value} (start : good v) : w.Intact v := by
  intro position
  induction position generalizing v with
  | nil =>
    intro u found
    cases found
    exact stocked v start
  | cons i position ih =>
    intro u found
    obtain ⟨x, branch, rest⟩ := Option.bind_eq_some_iff.1 found
    exact ih (closed v start x (List.mem_of_getElem? branch)) u rest

theorem offence?_cons {w : World Code Host} {v u : Value} {i : Nat}
    (branch : (w.children v)[i]? = some u) (depth : Nat) (position : List Nat) :
    w.offence? depth v (i :: position) = w.offence? (depth + 1) u position := by
  have depths : depth + (i :: position).length = depth + 1 + position.length := by
    rw [List.length_cons]
    omega
  rw [offence?, offence?, nodeAt?, branch, depths]
  rfl

end World

/-! ## 3. One level of an export -/

section Sequences

variable {α β ε : Type} {f : α → Except ε β}

theorem mapM_eq_ok {as : List α} {bs : List β} (all : as.mapM f = .ok bs) :
    List.Forall₂ (fun a b => f a = .ok b) as bs := by
  induction as generalizing bs with
  | nil =>
    cases all
    exact .nil
  | cons a as ih =>
    rw [List.mapM_cons] at all
    rcases first : f a with e | b
    · rw [first] at all
      cases all
    rcases others : as.mapM f with e | rest
    · rw [first, others] at all
      cases all
    rw [first, others] at all
    cases all
    exact .cons first (ih others)

theorem ok_of_mapM {as : List α} {bs : List β} (all : as.mapM f = .ok bs) {a : α}
    (among : a ∈ as) : ∃ b, f a = .ok b := by
  have each := mapM_eq_ok all
  clear all
  induction each with
  | nil => cases among
  | cons first _ ih =>
    rcases List.mem_cons.1 among with rfl | later
    · exact ⟨_, first⟩
    · exact ih later

/-- A row fails with the error of its first element that fails. -/
theorem mapM_eq_error {as : List α} {e : ε} (failed : as.mapM f = .error e) :
    ∃ i : Nat, ∃ a, as[i]? = some a ∧ f a = .error e ∧
      ∀ j < i, ∀ a, as[j]? = some a → ∃ b, f a = .ok b := by
  induction as with
  | nil => cases failed
  | cons a as ih =>
    rw [List.mapM_cons] at failed
    rcases first : f a with e' | b
    · rw [first] at failed
      cases failed
      exact ⟨0, a, rfl, first, fun j before => absurd before (Nat.not_lt_zero j)⟩
    rcases others : as.mapM f with e' | rest
    · rw [first, others] at failed
      cases failed
      obtain ⟨i, x, found, error, fine⟩ := ih others
      refine ⟨i + 1, x, found, error, fun j before y here => ?_⟩
      cases j with
      | zero =>
        cases here
        exact ⟨b, first⟩
      | succ j => exact fine j (Nat.lt_of_succ_lt_succ before) y here
    · rw [first, others] at failed
      cases failed

end Sequences

namespace Export

variable {w : World Code Host} {child child' : Value → Except ExportError Tree}

/-- If all keys have slots their entries are the exported slots under the keys. -/
theorem entries_eq (name : String) {slots : Array Value} {keys : List (String × Nat)}
    (stocked : ∀ key ∈ keys, key.2 < slots.size) :
    entries child name slots keys =
      ((keys.filterMap fun key => slots[key.2]?).mapM child).map ((keys.map (·.1)).zip ·) := by
  induction keys with
  | nil => rfl
  | cons key keys ih =>
    obtain ⟨v, here⟩ : ∃ v, slots[key.2]? = some v :=
      ⟨_, Array.getElem?_eq_getElem (stocked key List.mem_cons_self)⟩
    have later := ih fun other among => stocked other (List.mem_cons_of_mem _ among)
    rw [List.filterMap_cons_some (f := fun key : String × Nat => slots[key.2]?) here,
      List.mapM_cons, entries, here]
    show (do return (key.1, ← child v) :: (← entries child name slots keys)) = _
    rw [later]
    rcases child v with e | first
    · rfl
    generalize (keys.filterMap fun key => slots[key.2]?).mapM child = rest
    cases rest <;> rfl

theorem fields_eq {v : Value} {t : TypeId} (type : w.typeOf? v = some t)
    (stocked : w.Stocked v) :
    fields child w t (w.slots v) =
      (((w.keys v).filterMap fun key => (w.slots v)[key.2]?).mapM child).map
        fun trees => .map (((w.keys v).map (·.1)).zip trees) := by
  have keys : w.types.instanceFieldKeys t = w.keys v := by rw [World.keys, type]
  rw [fields, keys, entries_eq _ stocked]
  generalize ((w.keys v).filterMap fun key => (w.slots v)[key.2]?).mapM child = trees
  cases trees <;> rfl

theorem items_eq (items : List Value) :
    (do return Tree.seq (← items.mapM child)) = (items.mapM child).map .seq := by
  cases items.mapM child <;> rfl

theorem readable_eq {v : Value} {a : Address} (handle : v.address? = some a) :
    w.readable a = if w.isLocked v then .error .busy else .ok (w.cells (.entity a)) := by
  rw [World.readable, World.isLocked, handle, Option.any_some]
  cases w.borrow (.entity a) with
  | shared readers => rfl
  | exclusive => rfl

/-- An export of a node looks at its storage first and then at its branches in turn. -/
theorem node_eq {v : Value} (stocked : w.Stocked v) :
    node child w v =
      if w.isLocked v then .error .busy
      else ((w.children v).mapM child).map (w.assemble v) := by
  cases v with
  | null | bool b | int n | float x | char c | str s => rfl
  | struct t slots => exact fields_eq rfl stocked
  | object a =>
    rw [node, readable_eq (v := .object a) rfl]
    split
    · rfl
    rcases type : w.typeOf? (.object a) with _ | t
    · have keys : w.keys (.object a) = [] := by rw [World.keys, type]
      unfold World.children World.assemble
      simp only [keys]
      rfl
    · exact fields_eq type stocked
  | array a =>
    rw [node, readable_eq (v := .array a) rfl]
    split
    · rfl
    · exact items_eq _
  | list a =>
    rw [node, readable_eq (v := .list a) rfl]
    split
    · rfl
    · exact items_eq _

end Export

/-- An export of a node counts on for its branches. -/
theorem World.exportAt_eq (w : World Code Host) (depth : Nat) (v : Value) :
    w.exportAt depth v =
      if maxDepth < depth then .error .tooDeep else Export.node (w.exportAt (depth + 1)) w v := by
  unfold World.exportAt
  split
  · next deep =>
    rw [Nat.sub_eq_zero_of_le deep]
    rfl
  · next shallow =>
    have levels : maxDepth + 1 - depth = maxDepth + 1 - (depth + 1) + 1 := by omega
    rw [levels]
    rfl

/-- What holds of a node that is too deep, and of a node if it holds of all nodes one deeper, holds
of every node. -/
theorem World.exportAt_induction {motive : Nat → Value → Prop}
    (tooDeep : ∀ depth v, maxDepth < depth → motive depth v)
    (node : ∀ depth v, depth ≤ maxDepth → (∀ u, motive (depth + 1) u) → motive depth v)
    (depth : Nat) (v : Value) : motive depth v := by
  by_cases deep : maxDepth < depth
  · exact tooDeep depth v deep
  · exact node depth v (Nat.le_of_not_lt deep) fun u =>
      exportAt_induction tooDeep node (depth + 1) u
termination_by maxDepth + 1 - depth

/-! ## 4. Counting in 64 bits -/

/-- An export that counts its depth in 64 bits. It counts on only for a node that it enters, and
only if the next number is a number of 64 bits. What it makes of a node follows from what it makes
of the branches. -/
inductive Export.Runs (w : World Code Host) :
    UInt64 → Value → Except ExportError Tree → Prop
  | tooDeep {depth : UInt64} {v : Value} :
      maxDepth < depth.toNat → Runs w depth v (.error .tooDeep)
  | node {depth : UInt64} {v : Value} {child : Value → Except ExportError Tree} :
      depth.toNat ≤ maxDepth → depth.toNat + 1 < UInt64.size →
      (∀ u ∈ w.children v, Runs w (depth + 1) u (child u)) →
      Runs w depth v (Export.node child w v)

/-- `Unfolds w v tree`: the unfolding of a value is finite, and it is this tree. -/
inductive Unfolds (w : World Code Host) : Value → Tree → Prop
  | node {v : Value} {trees : List Tree} :
      (w.children v).length = trees.length →
      (∀ u tree, (u, tree) ∈ (w.children v).zip trees → Unfolds w u tree) →
      Unfolds w v (w.assemble v trees)

/-- A value has one unfolding. -/
theorem Unfolds.unique {w : World Code Host} {v : Value} {s t : Tree} (first : Unfolds w v s)
    (second : Unfolds w v t) : s = t := by
  induction first generalizing t with
  | @node v trees lengths branches ih =>
    cases second with
    | @node _ others lengths' branches' =>
    have same : trees = others := by
      refine List.ext_getElem (lengths.symm.trans lengths') fun i here there => ?_
      have branch : i < (w.children v).length := lengths ▸ here
      refine ih (w.children v)[i] trees[i] ?_ (branches' _ _ ?_)
      · exact List.mem_iff_getElem.2 ⟨i, by simp; omega, by simp⟩
      · exact List.mem_iff_getElem.2 ⟨i, by simp; omega, by simp⟩
    rw [same]

namespace World

variable {w : World Code Host}

/-- A successful export has met no offending position. -/
theorem offence?_of_exportAt_ok {depth : Nat} {v : Value} (intact : w.Intact v) {tree : Tree}
    (exported : w.exportAt depth v = .ok tree) (position : List Nat) :
    w.offence? depth v position = none := by
  induction depth, v using exportAt_induction generalizing tree position with
  | tooDeep depth v deep =>
    rw [exportAt_eq, if_pos deep] at exported
    cases exported
  | node depth v shallow ih =>
    rw [exportAt_eq, if_neg (Nat.not_lt.2 shallow), Export.node_eq (intact [] v rfl)] at exported
    split at exported
    · cases exported
    next unlocked =>
    rcases all : (w.children v).mapM (w.exportAt (depth + 1)) with e | trees
    · rw [all] at exported
      cases exported
    cases position with
    | nil =>
      show w.fault? depth v = none
      rw [fault?, if_neg (Nat.not_lt.2 shallow), if_neg unlocked]
    | cons i position =>
      rcases branch : (w.children v)[i]? with _ | u
      · rw [offence?, nodeAt?, branch]
        rfl
      · have among := List.mem_of_getElem? branch
        obtain ⟨below, exported⟩ := ok_of_mapM all among
        rw [offence?_cons branch]
        exact ih u (intact.child among) exported position

/-- A failed export reports the first offending position. -/
theorem exportAt_error_first {depth : Nat} {v : Value} (intact : w.Intact v) {e : ExportError}
    (failed : w.exportAt depth v = .error e) :
    ∃ position, w.offence? depth v position = some e ∧
      ∀ earlier, earlier < position → w.offence? depth v earlier = none := by
  induction depth, v using exportAt_induction generalizing e with
  | tooDeep depth v deep =>
    rw [exportAt_eq, if_pos deep] at failed
    cases failed
    refine ⟨[], ?_, fun earlier before => absurd before (List.not_lt_nil earlier)⟩
    show w.fault? depth v = _
    rw [fault?, if_pos deep]
  | node depth v shallow ih =>
    rw [exportAt_eq, if_neg (Nat.not_lt.2 shallow), Export.node_eq (intact [] v rfl)] at failed
    split at failed
    · next locked =>
      cases failed
      refine ⟨[], ?_, fun earlier before => absurd before (List.not_lt_nil earlier)⟩
      show w.fault? depth v = _
      rw [fault?, if_neg (Nat.not_lt.2 shallow), if_pos locked]
    next unlocked =>
    rcases all : (w.children v).mapM (w.exportAt (depth + 1)) with e' | trees
    · rw [all] at failed
      cases failed
      obtain ⟨i, u, branch, error, fine⟩ := mapM_eq_error all
      obtain ⟨position, offends, before⟩ := ih u (intact.child (List.mem_of_getElem? branch)) error
      refine ⟨i :: position, by rw [offence?_cons branch]; exact offends, fun earlier first => ?_⟩
      cases earlier with
      | nil =>
        show w.fault? depth v = none
        rw [fault?, if_neg (Nat.not_lt.2 shallow), if_neg unlocked]
      | cons j earlier =>
        rcases branch' : (w.children v)[j]? with _ | x
        · rw [offence?, nodeAt?, branch']
          rfl
        rw [offence?_cons branch']
        rcases List.cons_lt_cons_iff.1 first with left | ⟨rfl, below⟩
        · obtain ⟨tree, exported⟩ := fine j left x branch'
          have inside := intact.child (List.mem_of_getElem? branch')
          exact offence?_of_exportAt_ok inside exported earlier
        · rw [branch] at branch'
          cases branch'
          exact before earlier below
    · rw [all] at failed
      cases failed

/-! ## 6. Storages that are being written -/

/-- What is being written is not exported. -/
theorem exportAt_of_isLocked {depth : Nat} {v : Value} (locked : w.isLocked v = true)
    (shallow : depth ≤ maxDepth) : w.exportAt depth v = .error .busy := by
  rw [exportAt_eq, if_neg (Nat.not_lt.2 shallow)]
  cases v with
  | null | bool b | int n | float x | char c | str s | struct t slots => cases locked
  | object a =>
    rw [Export.node, Export.readable_eq (v := .object a) rfl, if_pos locked]
    rfl
  | array a =>
    rw [Export.node, Export.readable_eq (v := .array a) rfl, if_pos locked]
    rfl
  | list a =>
    rw [Export.node, Export.readable_eq (v := .list a) rfl, if_pos locked]
    rfl

/-- An export of some fields that is refused has been refused for one of them. -/
theorem busy_of_entries {child : Value → Except ExportError Tree} {name : String}
    {slots : Array Value} {keys : List (String × Nat)}
    (refused : Export.entries child name slots keys = .error .busy) :
    ∃ u ∈ keys.filterMap fun key => slots[key.2]?, child u = .error .busy := by
  induction keys with
  | nil => cases refused
  | cons key keys ih =>
    rw [Export.entries] at refused
    rcases here : slots[key.2]? with _ | v
    · rw [here] at refused
      cases refused
    rw [List.filterMap_cons_some (f := fun key : String × Nat => slots[key.2]?) here]
    rcases exported : child v with e | tree
    · simp only [here, exported] at refused
      cases refused
      exact ⟨v, List.mem_cons_self, exported⟩
    rcases others : Export.entries child name slots keys with e | entries
    · simp only [here, exported, others] at refused
      cases refused
      obtain ⟨u, among, busy⟩ := ih others
      exact ⟨u, List.mem_cons_of_mem _ among, busy⟩
    · simp only [here, exported, others] at refused
      cases refused

theorem busy_of_fields {child : Value → Except ExportError Tree} {v : Value} {t : TypeId}
    (type : w.typeOf? v = some t)
    (refused : Export.fields child w t (w.slots v) = .error .busy) :
    ∃ u ∈ (w.keys v).filterMap fun key => (w.slots v)[key.2]?, child u = .error .busy := by
  have keys : w.types.instanceFieldKeys t = w.keys v := by rw [World.keys, type]
  rw [Export.fields, keys] at refused
  rcases exported : Export.entries child (w.types.name t) (w.slots v) (w.keys v) with e | entries
  · rw [exported] at refused
    cases refused
    exact busy_of_entries exported
  · rw [exported] at refused
    cases refused

theorem busy_of_items {child : Value → Except ExportError Tree} {items : List Value}
    (refused : (do return Tree.seq (← items.mapM child)) = (.error .busy : Except _ Tree)) :
    ∃ u ∈ items, child u = .error .busy := by
  rw [Export.items_eq] at refused
  rcases exported : items.mapM child with e | trees
  · rw [exported] at refused
    cases refused
    obtain ⟨i, u, here, busy, -⟩ := mapM_eq_error exported
    exact ⟨u, List.mem_of_getElem? here, busy⟩
  · rw [exported] at refused
    cases refused

/-- A refusal is about the storage of the node or comes from one of its branches. -/
theorem busy_of_node {child : Value → Except ExportError Tree} {v : Value}
    (refused : Export.node child w v = .error .busy) :
    w.isLocked v = true ∨ ∃ u ∈ w.children v, child u = .error .busy := by
  cases v with
  | null | bool b | int n | float x | char c | str s => cases refused
  | struct t slots => exact .inr (busy_of_fields rfl refused)
  | object a =>
    rw [Export.node, Export.readable_eq (v := .object a) rfl] at refused
    split at refused
    · next locked => exact .inl locked
    rcases type : w.typeOf? (.object a) with _ | t
    · rw [type] at refused
      cases refused
    · rw [type] at refused
      exact .inr (busy_of_fields type refused)
  | array a =>
    rw [Export.node, Export.readable_eq (v := .array a) rfl] at refused
    split at refused
    · next locked => exact .inl locked
    · exact .inr (busy_of_items refused)
  | list a =>
    rw [Export.node, Export.readable_eq (v := .list a) rfl] at refused
    split at refused
    · next locked => exact .inl locked
    · exact .inr (busy_of_items refused)

/-- An export is refused only because of a storage that it has come to. -/
theorem exists_locked_of_exportAt {depth : Nat} {v : Value}
    (refused : w.exportAt depth v = .error .busy) :
    ∃ position u, w.nodeAt? v position = some u ∧ w.isLocked u = true := by
  induction depth, v using exportAt_induction with
  | tooDeep depth v deep =>
    rw [exportAt_eq, if_pos deep] at refused
    cases refused
  | node depth v shallow ih =>
    rw [exportAt_eq, if_neg (Nat.not_lt.2 shallow)] at refused
    rcases busy_of_node refused with locked | ⟨u, branch, busy⟩
    · exact ⟨[], v, rfl, locked⟩
    · obtain ⟨position, x, found, locked⟩ := ih u busy
      obtain ⟨i, here⟩ := List.mem_iff_getElem?.1 branch
      refine ⟨i :: position, x, ?_, locked⟩
      rw [nodeAt?, here]
      exact found

/-! ## 7. The whole -/

end World

end ObjectGraph
