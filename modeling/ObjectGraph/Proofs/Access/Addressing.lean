import ObjectGraph.Proofs.Access.Borrows

/-!
# Paths that address nothing

A token addresses nothing on null, if it names a member that the container has not, if it indexes
something else than a collection, or if it indexes past the end. These checks come first, whether
the token is read or written, and all other reasons for a refusal come after them. So reading and
writing along a path agree on whether it addresses anything.

1. `World.Unaddressed`: tokens that address nothing;
2. `readStep_error_iff_unaddressed`: how such a token is read, and
   `apply_error_iff_unaddressed`: how it is written;
3. `getValue_error_iff_set_error`: whole paths.
-/

namespace ObjectGraph

open ObjectGraph.Action

variable {Code Host : Type}

/-! ## 1. Tokens that address nothing -/

/-- The fault says that there is nothing where the token leads to. -/
def AccessFault.isAddressing : AccessFault → Bool
  | .memberNotFound .. | .nullIntermediate | .notCollection _ | .indexOutOfRange .. => true
  | _ => false

/-- The token addresses nothing on the container, and why. -/
inductive World.Unaddressed (w : World Code Host) (container : Value) : Token → AccessFault → Prop
  | null {token : Token} : container.isNull = true →
      Unaddressed w container token .nullIntermediate
  | unknown {name : String} {fault : AccessFault} : container.isNull = false →
      w.resolveOn container name = .error fault → Unaddressed w container (.member name) fault
  | notCollection {index : UInt64} : container.isNull = false → container.collection? = none →
      Unaddressed w container (.element index) (.notCollection container.tag)
  | outOfRange {index : UInt64} {a : Address} : container.collection? = some a →
      (w.cells (.entity a)).size ≤ index.toNat →
      Unaddressed w container (.element index)
        (.indexOutOfRange index.toNat (w.cells (.entity a)).size)

section

variable {w : World Code Host} {container : Value} {token : Token} {fault : AccessFault}

/-- A token that addresses nothing names no code. -/
theorem World.Unaddressed.place_ne_code (unaddressed : w.Unaddressed container token fault) :
    w.place container token ≠ .code := by
  cases unaddressed with
  | null null =>
    intro code
    obtain ⟨name, member, ⟨-, owner, found⟩, -⟩ := names_of_place_code code
    rw [isNull_of_resolveOn found] at null
    cases null
  | unknown _ unresolved => simp [place, unresolved]
  | notCollection _ collection => simp [place, collection]
  | outOfRange collection _ => simp [place, collection]

/-! ## 2. Reading and writing one token -/

variable (beh : Behaviour Code Host)

theorem outcome_readStep_of_unaddressed (idle : ∀ id, w.borrow id = .free)
    (options : AccessOptions) (unaddressed : w.Unaddressed container token fault) :
    (readStep beh options container token).outcome w = (.error fault, w) := by
  rw [outcome_readStep beh options unaddressed.place_ne_code]
  cases unaddressed with
  | null null => simp [World.readAt, null]
  | unknown notNull unresolved => simp [World.readAt, notNull, unresolved]
  | notCollection notNull collection => simp [World.readAt, notNull, collection]
  | @outOfRange index a collection outside =>
    have unused : w.borrow (.entity a) ≠ .exclusive := by simp [idle, Borrow.free]
    rw [World.readAt_of_collection collection, World.indexAt, if_neg unused, elementOf,
      Array.getElem?_eq_none outside]
    rfl

theorem outcome_apply_of_unaddressed (idle : ∀ id, w.borrow id = .free) (v : Value)
    (unaddressed : w.Unaddressed container token fault) :
    (DeferredWrite.apply beh ⟨container, token⟩ v).outcome w = (.error fault, w) := by
  cases unaddressed with
  | null null => simp [DeferredWrite.apply, null]
  | unknown notNull unresolved =>
    rw [DeferredWrite.apply_member beh notNull, DeferredWrite.writeMember, outcome_bind,
      outcome_getWorld, unresolved]
    rfl
  | notCollection notNull collection =>
    simp [DeferredWrite.apply, notNull, DeferredWrite.writeElement, collection]
  | outOfRange collection outside =>
    rw [DeferredWrite.outcome_apply_element beh collection, outcome_setElementAt,
      if_pos (idle _), if_neg (Nat.not_lt.2 outside)]
    rfl

/-- A token is not read for addressing nothing if and only if it addresses nothing. -/
theorem readStep_error_iff_unaddressed (idle : ∀ id, w.borrow id = .free)
    (options : AccessOptions) (addressing : fault.isAddressing = true) (w' : World Code Host) :
    (readStep beh options container token).outcome w = (.error fault, w') ↔
      w' = w ∧ w.Unaddressed container token fault := by
  constructor
  · intro failed
    obtain ⟨rfl, cause⟩ := readStep_error failed
    refine ⟨rfl, ?_⟩
    by_cases null : container.isNull = true
    · rw [outcome_readStep_of_unaddressed beh idle options (.null null)] at failed
      cases failed
      exact .null null
    rw [Bool.not_eq_true] at null
    cases cause with
    | null isNull => exact .null isNull
    | unknown named unresolved => exact named ▸ .unknown null unresolved
    | notCollection named collection => exact named ▸ .notCollection null collection
    | outOfRange named collection outside => exact named ▸ .outOfRange collection outside
    | _ => cases addressing
  · rintro ⟨rfl, unaddressed⟩
    exact outcome_readStep_of_unaddressed beh idle options unaddressed

/-- And it is not written for that reason if and only if it addresses nothing. -/
theorem apply_error_iff_unaddressed (idle : ∀ id, w.borrow id = .free) (v : Value)
    (addressing : fault.isAddressing = true) (w' : World Code Host) :
    (DeferredWrite.apply beh ⟨container, token⟩ v).outcome w = (.error fault, w') ↔
      w' = w ∧ w.Unaddressed container token fault := by
  constructor
  · intro failed
    rcases DeferredWrite.apply_error failed with ⟨rfl, cause⟩ | ⟨e, rfl⟩
    case inr => cases addressing
    refine ⟨rfl, ?_⟩
    by_cases null : container.isNull = true
    · rw [outcome_apply_of_unaddressed beh idle v (.null null)] at failed
      cases failed
      exact .null null
    rw [Bool.not_eq_true] at null
    cases cause with
    | null isNull => exact .null isNull
    | unknown named unresolved => exact named ▸ .unknown null unresolved
    | notCollection named collection => exact named ▸ .notCollection null collection
    | outOfRange named collection outside => exact named ▸ .outOfRange collection outside
    | _ => cases addressing
  · rintro ⟨rfl, unaddressed⟩
    exact outcome_apply_of_unaddressed beh idle v unaddressed

end

/-! ## 3. Paths -/

namespace PathAccess

/-- Reading and writing along a path agree on whether it addresses anything.

Let nothing be borrowed, let the code on the way leave no borrow open, as `Behaviour.LeavesBorrows`
code does, and let the path have at least one token and no malformed segment. Reading fails because
the path addresses nothing if and only if writing does. The faults are then the same, with all that
they say, and so are the token and the offset that they are reported at and the worlds that are
left. -/
theorem getValue_error_iff_set_error {beh : Behaviour Code Host} {options : AccessOptions}
    {root : Value} (v : Value) {path : String}
    (some_token : (scanPath path).tokens ≠ []) (sound : (scanPath path).error = none)
    {w : World Code Host} (idle : ∀ id, w.borrow id = .free)
    (closed : ∀ container token later w₁,
      Arrives beh options root (scanPath path).tokens w container token later w₁ →
      w.SameBorrows w₁)
    {e : AccessError} (addressing : e.fault.isAddressing = true) (w' : World Code Host) :
    (getValue beh options root path).outcome w = (.error e, w') ↔
      (set beh options root path v).outcome w = (.error e, w') := by
  rcases List.eq_nil_or_concat (scanPath path).tokens with empty | ⟨front, last, whole⟩
  · exact absurd empty some_token
  rw [List.concat_eq_append] at whole
  rw [outcome_getValue, outcome_set_of_tokens beh options whole, whole, sound, walk_append]
  rcases walked : (walk beh options none root front).outcome w with ⟨e' | reached, w₁⟩
  · simp only [Prod.mk.injEq, Except.error.injEq]
  -- The last token is read or written in a world in which still nothing is borrowed.
  have idle' : ∀ id, w₁.borrow id = .free := fun id =>
    (closed reached last [] w₁ ⟨front, whole, walked⟩ id).trans (idle id)
  calc (walk beh options none reached [last]).outcome w₁ = (.error e, w')
    _ ↔ ∃ fault, (readStep beh options reached last.token).outcome w₁ = (.error fault, w') ∧
          e = .atToken last fault := by
      rw [outcome_walk_singleton, map_mapError_eq_error_iff]
    _ ↔ ∃ fault, (DeferredWrite.apply beh ⟨reached, last.token⟩ v).outcome w₁ =
          (.error fault, w') ∧ e = .atToken last fault := by
      refine exists_congr fun fault => and_congr_left ?_
      rintro rfl
      exact (readStep_error_iff_unaddressed beh idle' options addressing w').trans
        (apply_error_iff_unaddressed beh idle' v addressing w').symm
    _ ↔ (write beh options none v last reached []).outcome w₁ = (.error e, w') := by
      rw [write, outcome_writeLast, map_mapError_eq_error_iff]

theorem idle_looped (id : StorageId) : looped.borrow id = .free := by
  rcases id with (_ | _ | a) | t <;> rfl

/-- A number is found where the computed property has left it, and then nothing in the number. -/
theorem getValue_error_iff_set_error_looped :
    let path := "Array.data[0].first.Array.data[0]"
    let e : AccessError := .atToken ⟨.element 0, 20⟩ (.notCollection .int)
    let w' := looped.write ⟨.entity 0, 0⟩ (.int 5)
    ((scanPath path).tokens ≠ [] ∧ (scanPath path).error = none) ∧
      (∀ id, looped.borrow id = .free) ∧
      (∀ container token later w₁,
        Arrives overwriting {} (.array 0) (scanPath path).tokens looped container token later w₁ →
        looped.SameBorrows w₁) ∧
      e.fault.isAddressing = true ∧
      (getValue overwriting {} (.array 0) path).outcome looped = (.error e, w') ∧
      (set overwriting {} (.array 0) path (.int 7)).outcome looped = (.error e, w') := by
  intro path e w'
  have some_token : (scanPath path).tokens ≠ [] := tokens_behind_looped ▸ List.cons_ne_nil _ _
  have sound : (scanPath path).error = none := by decide +kernel
  have closed : ∀ container token later w₁,
      Arrives overwriting {} (.array 0) (scanPath path).tokens looped container token later w₁ →
      looped.SameBorrows w₁ :=
    fun _ _ _ _ arrives => arrives.sameBorrows leavesBorrows_overwriting
  exact ⟨⟨some_token, sound⟩, idle_looped, closed, rfl, outcome_getValue_behind_looped,
    (getValue_error_iff_set_error (.int 7) some_token sound idle_looped closed rfl w').1
      outcome_getValue_behind_looped⟩

end PathAccess

end ObjectGraph
