import ObjectGraph.Proofs.Access.WriteBack

/-!
# Independent writes

Two paths may lead to one storage in many ways, so in general it matters which of two writes comes
first: the one can redirect the other, or undo it. It does not matter if they go to different
locations and neither goes to a location that the other passes through. Such a write leaves alone
all that decides where the other one goes and whether it succeeds: the walk to the container, the
place of the last token, the kind that the value is checked against, and the use and the length of
the storage.

1. `World.update_comm`, `World.write_comm`: writes to two locations;
2. `Overwritten.visits_eq`, `Overwritten.suits`: what a write leaves alone;
3. `SetsAt.outcome_set`, `SetsAt.of_overwritten`: a path that can be set can be set after a write
   elsewhere;
4. `set_comm`: independent writes along paths.
-/

namespace ObjectGraph

open ObjectGraph.Action PathAccess

variable {Code Host : Type}

namespace World

/-! ## 1. Two locations -/

/-- Changes of different storages can be made in either order. -/
theorem update_comm (w : World Code Host) {id id' : StorageId} (apart : id ≠ id')
    (f g : Storage → Storage) :
    (w.update id f).update id' g = (w.update id' g).update id f := by
  have modify_comm {α : Type} {i j : Nat} (different : i ≠ j) (xs : Array α) (f g : α → α) :
      (xs.modify i f).modify j g = (xs.modify j g).modify i f := by
    apply Array.ext_getElem?
    intro k
    simp only [Array.getElem?_modify]
    by_cases here : i = k
    · subst here
      simp [Ne.symm different]
    · simp [here]
  cases id with
  | entity a =>
    cases id' with
    | entity b =>
      have different : a ≠ b := fun same => apart (congrArg _ same)
      simp only [update, modify_comm different]
    | statics u => rfl
  | statics t =>
    cases id' with
    | entity b => rfl
    | statics u =>
      have different : t ≠ u := fun same => apart (congrArg _ same)
      simp only [update, modify_comm different]

/-- Different locations can be written in either order. -/
theorem write_comm (w : World Code Host) {l l' : Location} (apart : l ≠ l') (v v' : Value) :
    (w.write l v).write l' v' = (w.write l' v').write l v := by
  obtain ⟨id, i⟩ := l
  obtain ⟨id', j⟩ := l'
  simp only [write, modifyCells]
  by_cases same : id = id'
  · subst same
    have different : i ≠ j := fun same => apart (by rw [same])
    rw [update_update, update_update]
    refine update_congr fun _ => ?_
    simp only [Function.comp_apply, Array.setIfInBounds_comm v v' different]
  · exact update_comm w same _ _

/-! ## 2. What a write leaves alone -/

namespace Overwritten

variable {w w' : World Code Host} {l : Location} {v : Value} (changed : w.Overwritten l v w')
include changed

/-- A path that does not visit the location visits the places that it has visited before. -/
theorem visits_eq {container : Value} {tokens : List OffsetToken}
    (apart : .cell l ∉ w.visits container tokens) :
    w'.visits container tokens = w.visits container tokens := by
  induction tokens generalizing container with
  | nil => rfl
  | cons token tokens ih =>
    rw [visits, List.mem_cons, not_or] at apart
    rw [visits, visits, changed.place_eq, changed.readAt_eq (Ne.symm apart.1)]
    rcases found : w.readAt container token.token with fault | reached
    · rfl
    · rw [found] at apart
      exact congrArg _ (ih apart.2)

/-- What a kind accepts depends on types only, and no write changes those. -/
theorem accepts_eq (kind : ValueKind) (u : Value) : w'.accepts kind u = w.accepts kind u := by
  unfold accepts
  simp only [changed.typeOf?_eq, changed.types]

theorem suits {container : Value} {token : Token} {u : Value}
    (suits : DeferredWrite.Suits w container token u) :
    DeferredWrite.Suits w' container token u := by
  intro name owner member slot kind named found content
  rw [changed.resolveOn_eq] at found
  rw [changed.accepts_eq]
  exact suits name owner member slot kind named found content

/-- Another location can be written still. -/
theorem writable_of_ne {other : Location} (apart : other ≠ l) (writable : w.Writable other) :
    w'.Writable other := by
  refine ⟨?_, ?_⟩
  · rw [changed.others other apart]
    exact writable.existed
  · rw [changed.borrows]
    exact writable.unused

end Overwritten

end World

/-! ## 3. Paths that can be set -/

section

variable {beh : Behaviour Code Host} {options : AccessOptions} {root v : Value} {path : String}
  {w w' : World Code Host} {front : List OffsetToken} {last : OffsetToken} {container : Value}
  {l : Location}

theorem SetsAt.outcome_set (sets : SetsAt beh options w root path v front last container l) :
    (set beh options root path v).outcome w = (.ok (), w.write l v) := by
  rw [outcome_set_of_tokens beh options sets.whole, sets.reached, sets.sound]
  simp only [write, writeLast, outcome_bind, outcome_record,
    DeferredWrite.outcome_apply_of_suits beh sets.target sets.writable sets.suits]
  rfl

/-- A write elsewhere does not get in the way, unless it is to a location that the path passes
through. -/
theorem SetsAt.of_overwritten {l' : Location} {v' : Value} (changed : w.Overwritten l' v' w')
    (sets : SetsAt beh options w root path v front last container l) (apart : l ≠ l')
    (unread : .cell l' ∉ w.visits root front) :
    SetsAt beh options w' root path v front last container l where
  sound := sets.sound
  whole := sets.whole
  plain := by
    rw [changed.visits_eq unread]
    exact sets.plain
  reached := by
    obtain ⟨result, before, after⟩ := changed.walk_eq beh options none sets.plain unread
    have same : result = .ok container := congrArg Prod.fst (before.symm.trans sets.reached)
    rw [after, same]
  target := (changed.place_eq container last.token).trans sets.target
  writable := changed.writable_of_ne apart sets.writable
  suits := changed.suits sets.suits

end

/-! ## 4. Two paths -/

/-- Independent writes commute.

Let two values be set along two paths that name no code, from any roots, and let each of this
succeed in the world as it is. If the locations written are different, and neither of them is
visited by the other path on the way to its container, then either value can also be set after the
other has been, and both orders leave one and the same world. In it both locations hold what was
written to them, and nothing else has changed. -/
theorem set_comm {beh : Behaviour Code Host} {options options' : AccessOptions}
    {root root' v v' : Value} {path path' : String} {w w₁ w₂ : World Code Host}
    (written : (set beh options root path v).outcome w = (.ok (), w₁))
    (written' : (set beh options' root' path' v').outcome w = (.ok (), w₂))
    (plain : .code ∉ w.visits root (scanPath path).tokens)
    (plain' : .code ∉ w.visits root' (scanPath path').tokens) :
    ∃ front l front' l',
      w.visits root (scanPath path).tokens = front ++ [.cell l] ∧ w.Overwritten l v w₁ ∧
      w.visits root' (scanPath path').tokens = front' ++ [.cell l'] ∧ w.Overwritten l' v' w₂ ∧
      (l ≠ l' → .cell l ∉ front' → .cell l' ∉ front → ∃ final,
        (set beh options' root' path' v').outcome w₁ = (.ok (), final) ∧
        (set beh options root path v).outcome w₂ = (.ok (), final) ∧
        w₁.Overwritten l' v' final ∧ w₂.Overwritten l v final) := by
  obtain ⟨tokens, last, container, l, sets, rfl⟩ := setsAt_of_set written plain
  obtain ⟨tokens', last', container', l', sets', rfl⟩ := setsAt_of_set written' plain'
  have changed := World.overwritten_write sets.writable v
  have changed' := World.overwritten_write sets'.writable v'
  refine ⟨_, l, _, l', sets.visited, changed, sets'.visited, changed', ?_⟩
  intro apart unread' unread
  -- each of the two can be made in the world that the other leaves
  have second := sets'.of_overwritten changed (Ne.symm apart) unread'
  have first := sets.of_overwritten changed' apart unread
  have same : (w.write l v).write l' v' = (w.write l' v').write l v := w.write_comm apart v v'
  refine ⟨(w.write l v).write l' v', second.outcome_set, ?_,
    World.overwritten_write second.writable v', ?_⟩
  · rw [same]
    exact first.outcome_set
  · rw [same]
    exact World.overwritten_write first.writable v

/-- An array that is its own first element, and has two others. -/
def coil : World Empty Unit :=
  { host := ()
    entities := #[{ shape := .array, storage := { cells := #[.array 0, .int 1, .int 2] } }] }

theorem set_comm_coil :
    let path := "Array.data[0].Array.data[1]"
    let path' := "Array.data[0].Array.data[0].Array.data[2]"
    let w₁ := coil.write ⟨.entity 0, 1⟩ (.int 7)
    let w₂ := coil.write ⟨.entity 0, 2⟩ (.int 9)
    (set .idle {} (.array 0) path (.int 7)).outcome coil = (.ok (), w₁) ∧
      (set .idle {} (.array 0) path' (.int 9)).outcome coil = (.ok (), w₂) ∧
      ∃ final, (set .idle {} (.array 0) path' (.int 9)).outcome w₁ = (.ok (), final) ∧
        (set .idle {} (.array 0) path (.int 7)).outcome w₂ = (.ok (), final) ∧
        final.read? ⟨.entity 0, 1⟩ = some (.int 7) ∧
        final.read? ⟨.entity 0, 2⟩ = some (.int 9) := by
  intro path path' w₁ w₂
  have tokens : (scanPath path).tokens = [⟨.element 0, 0⟩] ++ [⟨.element 1, 14⟩] := by
    decide +kernel
  have tokens' : (scanPath path').tokens =
      [⟨.element 0, 0⟩, ⟨.element 0, 14⟩] ++ [⟨.element 2, 28⟩] := by
    decide +kernel
  have visits : coil.visits (.array 0) (scanPath path).tokens =
      [.cell ⟨.entity 0, 0⟩] ++ [.cell ⟨.entity 0, 1⟩] := by
    rw [tokens]
    decide +kernel
  have visits' : coil.visits (.array 0) (scanPath path').tokens =
      [.cell ⟨.entity 0, 0⟩, .cell ⟨.entity 0, 0⟩] ++ [.cell ⟨.entity 0, 2⟩] := by
    rw [tokens']
    decide +kernel
  have written : (set .idle {} (.array 0) path (.int 7)).outcome coil = (.ok (), w₁) := by
    rw [outcome_set_of_tokens .idle {} tokens, show (scanPath path).error = none by decide +kernel]
    rfl
  have written' : (set .idle {} (.array 0) path' (.int 9)).outcome coil = (.ok (), w₂) := by
    rw [outcome_set_of_tokens .idle {} tokens',
      show (scanPath path').error = none by decide +kernel]
    rfl
  obtain ⟨front, l, front', l', visited, -, visited', -, commute⟩ :=
    set_comm written written' (by simp [visits]) (by simp [visits'])
  obtain ⟨rfl, last⟩ := List.append_inj' (visits.symm.trans visited) rfl
  obtain ⟨rfl, last'⟩ := List.append_inj' (visits'.symm.trans visited') rfl
  obtain rfl : ⟨.entity 0, 1⟩ = l := by simpa using last
  obtain rfl : ⟨.entity 0, 2⟩ = l' := by simpa using last'
  obtain ⟨final, second, first, changed, changed'⟩ :=
    commute (by decide) (by decide) (by decide)
  exact ⟨written, written', final, second, first, changed'.written, changed.written⟩

end ObjectGraph
