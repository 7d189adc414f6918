import ObjectGraph.Proofs.Access.Arrival
import ObjectGraph.Proofs.Access.Faults

/-!
# Path access holds no borrow while code runs

Following a path borrows storages, one at a time, and gives each back before the next piece of code
runs. So code that is run on the way finds all storages borrowed as the call has found them, and may
itself follow paths through the same containers.

1. `World.SameBorrows`, `Behaviour.LeavesBorrows`: code that leaves no borrow open;
2. `sameBorrows_walk`, `run_walk_agrees`: how the storages are borrowed along a path, and when code
   is entered;
3. `blocked_of_getValue`, `blocked_of_set`: calls that end at a borrowed storage;
4. `HoldsNoBorrow`, `holdsNoBorrow`: the whole.
-/

namespace ObjectGraph

open ObjectGraph.Action

variable {Code Host α : Type}

/-! ## 1. Borrows -/

/-- A storage in this state is not given to another reader, or writer. -/
def Borrow.Blocks (writes : Bool) (b : Borrow) : Prop :=
  if writes then b ≠ .free else b = .exclusive

@[simp] theorem Borrow.blocks_false {b : Borrow} : b.Blocks false ↔ b = .exclusive := Iff.rfl

@[simp] theorem Borrow.blocks_true {b : Borrow} : b.Blocks true ↔ b ≠ .free := Iff.rfl

theorem Borrow.not_blocks_free (writes : Bool) : ¬ Borrow.free.Blocks writes := by
  cases writes <;> simp [Blocks, free]

namespace World

/-- Every storage is borrowed in the second world as it is in the first. -/
def SameBorrows (w w' : World Code Host) : Prop := ∀ id, w'.borrow id = w.borrow id

theorem SameBorrows.refl (w : World Code Host) : w.SameBorrows w := fun _ => rfl

theorem SameBorrows.trans {w w' w'' : World Code Host} (first : w.SameBorrows w')
    (second : w'.SameBorrows w'') : w.SameBorrows w'' :=
  fun id => (second id).trans (first id)

theorem sameBorrows_write (w : World Code Host) (l : Location) (v : Value) :
    w.SameBorrows (w.write l v) :=
  fun _ => borrow_modifyCells ..

end World

/-- The code of members leaves no borrow open. -/
structure Behaviour.LeavesBorrows (beh : Behaviour Code Host) : Prop where
  getter : ∀ code receiver (w : World Code Host),
    w.SameBorrows ((beh.getter code receiver).outcome w).2
  setter : ∀ code receiver v (w : World Code Host),
    w.SameBorrows ((beh.setter code receiver v).outcome w).2
  method : ∀ code receiver (w : World Code Host),
    w.SameBorrows ((beh.method code receiver).outcome w).2

/-- In worlds that meet the condition, the code of members is the same. -/
structure Behaviour.AgreesWith (beh beh' : Behaviour Code Host) (p : World Code Host → Prop) :
    Prop where
  getter : ∀ code receiver w, p w →
    (beh'.getter code receiver).run w = (beh.getter code receiver).run w
  setter : ∀ code receiver v w, p w →
    (beh'.setter code receiver v).run w = (beh.setter code receiver v).run w
  method : ∀ code receiver w, p w →
    (beh'.method code receiver).run w = (beh.method code receiver).run w

namespace PathAccess

variable {beh : Behaviour Code Host} {options : AccessOptions}

/-! ## 2. Along a path -/

section

variable (options) (closed : beh.LeavesBorrows)
include closed

theorem sameBorrows_readStep (container : Value) (token : Token) (w : World Code Host) :
    w.SameBorrows ((readStep beh options container token).outcome w).2 := by
  by_cases code : w.place container token = .code
  · obtain ⟨name, member, named, ⟨getter, setter, content⟩ | ⟨call, content⟩⟩ :=
      names_of_place_code code
    · rw [outcome_readStep_property beh _ named content]
      exact closed.getter getter _ w
    · rw [outcome_readStep_method beh _ named content]
      cases options.methodCalls with
      | invoke => exact closed.method call _ w
      | deny => exact .refl w
  · rw [outcome_readStep beh _ code]
    exact .refl w

theorem sameBorrows_step (container : Value) (token : OffsetToken) (w : World Code Host) :
    w.SameBorrows ((step beh options container token).outcome w).2 := by
  rw [outcome_step]
  exact sameBorrows_readStep options closed container token.token w

theorem sameBorrows_walk (malformed : Option ParseError) (current : Value)
    (tokens : List OffsetToken) (w : World Code Host) :
    w.SameBorrows ((walk beh options malformed current tokens).outcome w).2 := by
  induction tokens generalizing current w with
  | nil => cases malformed <;> exact .refl w
  | cons token tokens ih =>
    have before := sameBorrows_step options closed current token w
    rw [walk, outcome_bind]
    rcases stepped : (step beh options current token).outcome w with ⟨e | next, w₁⟩ <;>
      rw [stepped] at before
    · exact before
    · exact before.trans (ih next w₁)

theorem sameBorrows_apply (container : Value) (token : Token) (v : Value) (w : World Code Host) :
    w.SameBorrows ((DeferredWrite.apply beh ⟨container, token⟩ v).outcome w).2 := by
  rcases DeferredWrite.apply_cases container token v w with ⟨fault, -, ends⟩ |
    ⟨-, l, -, -, ends⟩ | ⟨name, owner, member, getter, setter, -, -, -, -, runs⟩
  · rw [ends beh]
    exact .refl w
  · rw [ends beh]
    exact w.sameBorrows_write l v
  · rw [runs beh]
    exact closed.setter setter _ v w

theorem sameBorrows_write (malformed : Option ParseError) (v : Value) (first : OffsetToken)
    (current : Value) (tokens : List OffsetToken) (w : World Code Host) :
    w.SameBorrows ((write beh options malformed v first current tokens).outcome w).2 := by
  induction tokens generalizing first current w with
  | nil =>
    cases malformed with
    | none =>
      rw [write, outcome_writeLast]
      exact sameBorrows_apply closed current first.token v w
    | some p => exact .refl w
  | cons second tokens ih =>
    have before := sameBorrows_step options closed current first w
    rw [write, outcome_bind]
    rcases stepped : (step beh options current first).outcome w with ⟨e | next, w₁⟩ <;>
      rw [stepped] at before
    · exact before
    · exact before.trans (ih second next w₁)

end

section

variable {beh' : Behaviour Code Host} {start : World Code Host}
  (agrees : beh.AgreesWith beh' start.SameBorrows)
include agrees

theorem run_step_agrees {w : World Code Host} (same : start.SameBorrows w) (container : Value)
    (token : OffsetToken) :
    (step beh' options container token).run w = (step beh options container token).run w := by
  have read : (readStep beh' options container token.token).run w =
      (readStep beh options container token.token).run w :=
    run_readStep_congr (fun _ _ getter _ _ _ => agrees.getter getter _ w same)
      fun _ _ call _ _ => ⟨rfl, fun _ => agrees.method call _ w same⟩
  simp only [step, run_bind, read]

theorem run_writeLast_agrees {w : World Code Host} (same : start.SameBorrows w) (container : Value)
    (token : OffsetToken) (v : Value) :
    (writeLast beh' container token v).run w = (writeLast beh container token v).run w := by
  have written : (DeferredWrite.apply beh' ⟨container, token.token⟩ v).run w =
      (DeferredWrite.apply beh ⟨container, token.token⟩ v).run w :=
    DeferredWrite.run_apply_congr fun _ _ _ setter _ _ => agrees.setter setter _ v w same
  simp only [writeLast, run_bind, run_record, written]

variable (closed : beh.LeavesBorrows)
include closed

/-- Code is entered only where the storages are borrowed as they were at the start: code that is
different elsewhere makes no difference. -/
theorem run_walk_agrees {w : World Code Host} (same : start.SameBorrows w)
    (malformed : Option ParseError) (current : Value) (tokens : List OffsetToken) :
    (walk beh' options malformed current tokens).run w =
      (walk beh options malformed current tokens).run w := by
  induction tokens generalizing current w with
  | nil => rfl
  | cons token tokens ih =>
    have between := same.trans (sameBorrows_step options closed current token w)
    simp only [walk, run_bind, run_step_agrees agrees same]
    rcases stepped : (step beh options current token).run w with ⟨e | next, w₁, log⟩
    · rfl
    · obtain rfl : w₁ = ((step beh options current token).outcome w).2 :=
        (congrArg Run.world stepped).symm
      simp only [ih between]

theorem run_write_agrees {w : World Code Host} (same : start.SameBorrows w)
    (malformed : Option ParseError) (v : Value) (first : OffsetToken) (current : Value)
    (tokens : List OffsetToken) :
    (write beh' options malformed v first current tokens).run w =
      (write beh options malformed v first current tokens).run w := by
  induction tokens generalizing first current w with
  | nil =>
    cases malformed with
    | none => exact run_writeLast_agrees agrees same current first v
    | some p => rfl
  | cons second tokens ih =>
    have between := same.trans (sameBorrows_step options closed current first w)
    simp only [write, run_bind, run_step_agrees agrees same]
    rcases stepped : (step beh options current first).run w with ⟨e | next, w₁, log⟩
    · rfl
    · obtain rfl : w₁ = ((step beh options current first).outcome w).2 :=
        (congrArg Run.world stepped).symm
      simp only [ih between]

end

/-! ## 3. Borrowed storages -/

/-- To get the value at a path all tokens are read. -/
def reading (_ : List OffsetToken) : Bool := false

/-- To set it the last token is written. -/
def writing (later : List OffsetToken) : Bool := later.isEmpty

/-- The call has ended at a token that names a location of a storage which was not to be had.
Whether it was to be read or written depends on the tokens behind. -/
def Blocked (beh : Behaviour Code Host) (options : AccessOptions) (root : Value) (path : String)
    (w : World Code Host) (writes : List OffsetToken → Bool) (e : AccessError) : Prop :=
  ∃ container token later w₁ l,
    Arrives beh options root (scanPath path).tokens w container token later w₁ ∧
    e = .atToken token .reentrant ∧ w₁.place container token.token = .cell l ∧
    (w₁.borrow l.storage).Blocks (writes later)

/-- The same, and the storage has been borrowed like that since before the call. -/
def BlockedBefore (beh : Behaviour Code Host) (options : AccessOptions) (root : Value)
    (path : String) (w : World Code Host) (writes : List OffsetToken → Bool) (e : AccessError) :
    Prop :=
  ∃ container token later w₁ l,
    Arrives beh options root (scanPath path).tokens w container token later w₁ ∧
    e = .atToken token .reentrant ∧ w₁.place container token.token = .cell l ∧
    (w.borrow l.storage).Blocks (writes later)

section

variable {root : Value} {path : String} {writes : List OffsetToken → Bool} {e : AccessError}
  {w w' : World Code Host}

theorem blocked_of_getValue (failed : (getValue beh options root path).outcome w = (.error e, w'))
    (reentrant : e.fault = .reentrant) : Blocked beh options root path w reading e := by
  rw [outcome_getValue] at failed
  rcases walk_error_cases failed with ⟨p, -, rfl⟩ |
    ⟨container, token, later, w₁, fault, arrives, unread, rfl⟩
  · cases reentrant
  · obtain rfl : fault = .reentrant := reentrant
    obtain ⟨l, here, busy⟩ := busy_of_unreadable (readStep_error unread).2
    exact ⟨container, token, later, w₁, l, arrives, rfl, here, busy⟩

theorem blocked_of_set {v : Value}
    (failed : (set beh options root path v).outcome w = (.error e, w'))
    (reentrant : e.fault = .reentrant) : Blocked beh options root path w writing e := by
  rcases set_error_cases failed with ⟨p, -, rfl⟩ | ⟨-, rfl⟩ |
    ⟨container, token, later, w₁, fault, more, arrives, unread, rfl⟩ |
    ⟨container, token, w₁, fault, arrives, unwritten, rfl⟩
  · cases reentrant
  · cases reentrant
  · obtain rfl : fault = .reentrant := reentrant
    obtain ⟨l, here, busy⟩ := busy_of_unreadable (readStep_error unread).2
    refine ⟨container, token, later, w₁, l, arrives, rfl, here, ?_⟩
    rw [writing, List.isEmpty_eq_false_iff.2 more]
    exact busy
  · obtain rfl : fault = .reentrant := reentrant
    rcases DeferredWrite.apply_error unwritten with ⟨-, cause⟩ | ⟨_, ⟨⟩⟩
    obtain ⟨l, here, busy⟩ := busy_of_refuses cause
    exact ⟨container, token, [], w₁, l, arrives, rfl, here, busy⟩

/-- No token that names a location is arrived at from null. -/
theorem Arrives.root_isNull {tokens later : List OffsetToken} {container : Value}
    {token : OffsetToken} {l : Location}
    (arrives : Arrives beh options root tokens w container token later w')
    (here : w'.place container token.token = .cell l) : root.isNull = false := by
  obtain ⟨front, -, reached⟩ := arrives
  cases front with
  | nil =>
    cases reached
    exact World.isNull_of_place here
  | cons first front =>
    refine Bool.eq_false_iff.2 fun null => ?_
    rw [outcome_walk_null beh options none first null] at reached
    cases reached

theorem Arrives.sameBorrows (closed : beh.LeavesBorrows) {tokens later : List OffsetToken}
    {container : Value} {token : OffsetToken}
    (arrives : Arrives beh options root tokens w container token later w') :
    w.SameBorrows w' := by
  obtain ⟨front, -, reached⟩ := arrives
  have same := sameBorrows_walk options closed none root front w
  rwa [reached] at same

theorem Blocked.before (closed : beh.LeavesBorrows)
    (blocked : Blocked beh options root path w writes e) :
    BlockedBefore beh options root path w writes e := by
  obtain ⟨container, token, later, w₁, l, arrives, same, here, busy⟩ := blocked
  rw [arrives.sameBorrows closed] at busy
  exact ⟨container, token, later, w₁, l, arrives, same, here, busy⟩

theorem not_blockedBefore_of_free (free : ∀ id, w.borrow id = .free) :
    ¬ BlockedBefore beh options root path w writes e := by
  rintro ⟨_, _, later, _, l, -, -, -, busy⟩
  rw [free] at busy
  exact Borrow.not_blocks_free _ busy

end

/-! ## 4. Whole calls -/

/-- The call holds no borrow while it runs code, and none when it ends.

1. Code that behaves differently where the storages are borrowed differently from how they are at
   the start would not be noticed;
2. whenever a token is read or written the storages are borrowed as at the start, and
3. so they are at the end;
4. if the call itself reports a borrowed storage, then that has been borrowed before the call. -/
structure HoldsNoBorrow (call : Behaviour Code Host → Action Code Host (Except AccessError α))
    (writes : List OffsetToken → Bool) (beh : Behaviour Code Host)
    (options : AccessOptions) (root : Value) (path : String) (w : World Code Host) : Prop where
  entered : ∀ beh', beh.AgreesWith beh' w.SameBorrows → (call beh').run w = (call beh).run w
  arrived : ∀ container token later w₁,
    Arrives beh options root (scanPath path).tokens w container token later w₁ → w.SameBorrows w₁
  returned : w.SameBorrows ((call beh).outcome w).2
  reentrant : ∀ e w', (call beh).outcome w = (.error e, w') → e.fault = .reentrant →
    BlockedBefore beh options root path w writes e

theorem holdsNoBorrow_getValue (closed : beh.LeavesBorrows) (options : AccessOptions)
    (root : Value) (path : String) (w : World Code Host) :
    HoldsNoBorrow (getValue · options root path) reading beh options root path w where
  entered beh' agrees :=
    run_recordFailure_congr (run_walk_agrees agrees closed (.refl w) _ root _)
  arrived container token later w₁ arrives := arrives.sameBorrows closed
  returned := by
    rw [outcome_getValue]
    exact sameBorrows_walk options closed _ root _ w
  reentrant e w' failed reentrant := (blocked_of_getValue failed reentrant).before closed

theorem outcome_get_of_error {type : NativeType} {root : Value} {path : String} {e : AccessError}
    {w w' : World Code Host}
    (failed : (getValue beh options root path).outcome w = (.error e, w')) :
    (get beh options type root path).outcome w = (.error e, w') := by
  rw [get, outcome_bind, failed]
  rfl

/-- A view adds to the call only a failure of its own, at no token. -/
theorem get_error {type : NativeType} {root : Value} {path : String} {e : AccessError}
    {w w' : World Code Host}
    (failed : (get beh options type root path).outcome w = (.error e, w')) :
    (getValue beh options root path).outcome w = (.error e, w') ∨
      ∃ v : Value, e = .wholePath (.typeMismatch type.text v.tag) := by
  rw [get, outcome_bind] at failed
  rcases read : (getValue beh options root path).outcome w with ⟨e' | v, w₁⟩
  · rw [read] at failed
    cases failed
    exact .inl rfl
  · rw [read] at failed
    rcases viewed : v.view? type with _ | view
    · simp only [viewed, outcome_recordFailure] at failed
      cases failed
      exact .inr ⟨v, rfl⟩
    · simp only [viewed] at failed
      cases failed

theorem outcome_get_world (type : NativeType) (root : Value) (path : String)
    (w : World Code Host) :
    ((get beh options type root path).outcome w).2 =
      ((getValue beh options root path).outcome w).2 := by
  rw [get, outcome_bind]
  rcases (getValue beh options root path).outcome w with ⟨e | v, w₁⟩
  · rfl
  · rcases viewed : v.view? type with _ | view
    · simp only [viewed, outcome_recordFailure]
      rfl
    · simp only [viewed]
      rfl

theorem holdsNoBorrow_get (closed : beh.LeavesBorrows) (options : AccessOptions)
    (type : NativeType) (root : Value) (path : String) (w : World Code Host) :
    HoldsNoBorrow (get · options type root path) reading beh options root path w where
  entered beh' agrees := by
    have read := (holdsNoBorrow_getValue closed options root path w).entered beh' agrees
    simp only [get, run_bind, read]
  arrived container token later w₁ arrives := arrives.sameBorrows closed
  returned := by
    rw [outcome_get_world]
    exact (holdsNoBorrow_getValue closed options root path w).returned
  reentrant e w' failed reentrant := by
    rcases get_error failed with read | ⟨v, rfl⟩
    · exact (blocked_of_getValue read reentrant).before closed
    · cases reentrant

theorem holdsNoBorrow_set (closed : beh.LeavesBorrows) (options : AccessOptions)
    (root : Value) (path : String) (v : Value) (w : World Code Host) :
    HoldsNoBorrow (set · options root path v) writing beh options root path w where
  entered beh' agrees := by
    refine run_recordFailure_congr ?_
    cases (scanPath path).tokens with
    | nil => cases (scanPath path).error <;> rfl
    | cons first tokens => exact run_write_agrees agrees closed (.refl w) _ v first root tokens
  arrived container token later w₁ arrives := arrives.sameBorrows closed
  returned := by
    rw [set, outcome_recordFailure]
    cases (scanPath path).tokens with
    | nil => cases (scanPath path).error <;> exact .refl w
    | cons first tokens => exact sameBorrows_write options closed _ v first root tokens w
  reentrant e w' failed reentrant := (blocked_of_set failed reentrant).before closed

/-- No call holds a borrow across code, whatever the storages are at the start and whatever the code
does, as long as the code leaves no borrow open itself. In particular, if nothing is borrowed at the
start, no call is ever blocked by a borrow. -/
theorem holdsNoBorrow (closed : beh.LeavesBorrows) (options : AccessOptions) (type : NativeType)
    (root : Value) (path : String) (v : Value) (w : World Code Host) :
    HoldsNoBorrow (getValue · options root path) reading beh options root path w ∧
      HoldsNoBorrow (get · options type root path) reading beh options root path w ∧
      HoldsNoBorrow (set · options root path v) writing beh options root path w ∧
      ((∀ id, w.borrow id = .free) → ∀ e w', e.fault = .reentrant →
        (getValue beh options root path).outcome w ≠ (.error e, w') ∧
        (get beh options type root path).outcome w ≠ (.error e, w') ∧
        (set beh options root path v).outcome w ≠ (.error e, w')) := by
  have read := holdsNoBorrow_getValue closed options root path w
  have viewed := holdsNoBorrow_get closed options type root path w
  have written := holdsNoBorrow_set closed options root path v w
  refine ⟨read, viewed, written, fun free e w' reentrant => ⟨?_, ?_, ?_⟩⟩ <;> intro failed
  · exact not_blockedBefore_of_free free (read.reentrant e w' failed reentrant)
  · exact not_blockedBefore_of_free free (viewed.reentrant e w' failed reentrant)
  · exact not_blockedBefore_of_free free (written.reentrant e w' failed reentrant)

/-! An array of one object, whose property is computed by code that overwrites the element through
which it has been reached. -/

def looped : World Unit Unit :=
  { host := ()
    types :=
      { infos := #[{ TypeInfo.blank with
          members := [⟨"first", .pub, false, .property () none⟩], positions := [("first", 0)] }] }
    entities := #[⟨.array, { cells := #[.object 1] }⟩, ⟨.object 0, {}⟩] }

def overwriting : Behaviour Unit Unit :=
  { Behaviour.still with
    getter := fun _ _ => do
      let _ ← set .still {} (.array 0) "Array.data[0]" (.int 5)
      return (← getValue .still {} (.array 0) "Array.data[0]").toOption.getD .null }

theorem leavesBorrows_still : (.still : Behaviour Code Host).LeavesBorrows :=
  ⟨fun _ _ => .refl, fun _ _ _ => .refl, fun _ _ => .refl⟩

/-- That nested calls leave no borrow open is what has been proved of them. -/
theorem leavesBorrows_overwriting : overwriting.LeavesBorrows where
  getter _ _ w := by
    have closed : (.still : Behaviour Unit Unit).LeavesBorrows := leavesBorrows_still
    have written := (holdsNoBorrow_set closed {} (.array 0) "Array.data[0]" (.int 5) w).returned
    exact written.trans (holdsNoBorrow_getValue closed {} (.array 0) "Array.data[0]" _).returned
  setter _ _ _ := .refl
  method _ _ := .refl

/-- Reading the property leaves its value in the array. -/
theorem outcome_walk_looped :
    (walk overwriting {} none (.array 0) [⟨.element 0, 0⟩, ⟨.member "first", 14⟩]).outcome looped =
      (.ok (.int 5), looped.write ⟨.entity 0, 0⟩ (.int 5)) := by
  have inner : (scanPath "Array.data[0]").tokens = [⟨.element 0, 0⟩] := by decide +kernel
  have inner_sound : (scanPath "Array.data[0]").error = none := by decide +kernel
  have computed : (overwriting.getter () (some (.object 1))).outcome looped =
      (.int 5, looped.write ⟨.entity 0, 0⟩ (.int 5)) := by
    simp only [overwriting, outcome_bind, outcome_getValue, set, outcome_recordFailure, inner,
      inner_sound]
    rfl
  exact congrArg (fun computed => (Except.ok computed.1, computed.2)) computed

theorem tokens_behind_looped : (scanPath "Array.data[0].first.Array.data[0]").tokens =
    [⟨.element 0, 0⟩, ⟨.member "first", 14⟩, ⟨.element 0, 20⟩] := by
  decide +kernel

/-- The value is a number, in which there is no element. -/
theorem outcome_getValue_behind_looped :
    (getValue overwriting {} (.array 0) "Array.data[0].first.Array.data[0]").outcome looped =
      (.error (.atToken ⟨.element 0, 20⟩ (.notCollection .int)),
        looped.write ⟨.entity 0, 0⟩ (.int 5)) :=
  outcome_getValue_of_arrives ⟨_, tokens_behind_looped, outcome_walk_looped⟩ rfl

theorem holdsNoBorrow_looped :
    let path := "Array.data[0].first"
    overwriting.LeavesBorrows ∧
      HoldsNoBorrow (getValue · {} (.array 0) path) reading overwriting {} (.array 0) path
        looped ∧
      (getValue overwriting {} (.array 0) path).outcome looped =
        (.ok (.int 5), looped.write ⟨.entity 0, 0⟩ (.int 5)) := by
  intro path
  have inner : (scanPath "Array.data[0]").tokens = [⟨.element 0, 0⟩] := by decide +kernel
  have inner_sound : (scanPath "Array.data[0]").error = none := by decide +kernel
  have outer : (scanPath path).tokens = [⟨.element 0, 0⟩, ⟨.member "first", 14⟩] := by
    decide +kernel
  have outer_sound : (scanPath path).error = none := by decide +kernel
  refine ⟨leavesBorrows_overwriting,
    (holdsNoBorrow leavesBorrows_overwriting {} .value (.array 0) path .null looped).1, ?_⟩
  have computed : (overwriting.getter () (some (.object 1))).outcome looped =
      (.int 5, looped.write ⟨.entity 0, 0⟩ (.int 5)) := by
    simp only [overwriting, outcome_bind, outcome_getValue, set, outcome_recordFailure, inner,
      inner_sound]
    rfl
  rw [outcome_getValue, outer, outer_sound]
  exact congrArg (fun computed => (Except.ok computed.1, computed.2)) computed

end PathAccess

end ObjectGraph
