import ObjectGraph.Access.Log
import ObjectGraph.World

/-!
# Actions

An action reads and changes a world, leaves log records and gives a result. Actions are functions,
so that what one does can be stated as an equation about its run.

A storage is only touched while it is borrowed: `withShared` and `withExclusive` borrow it, run
something and give it back, and are refused without any effect if the storage is in use.

The code of the host program that members refer to is given its meaning by a `Behaviour`: an
action for each use of it. Nothing is assumed about these actions.
-/

namespace ObjectGraph

/-- What an action gives, the world it leaves and the records it writes. -/
structure Run (Code Host α : Type) where
  result : α
  world : World Code Host
  log : List LogRecord

/-- A computation on a world. -/
def Action (Code Host α : Type) : Type := World Code Host → Run Code Host α

namespace Action

variable {Code Host α β : Type}

/-- Runs the action in a world. -/
def run (x : Action Code Host α) (w : World Code Host) : Run Code Host α := x w

instance : Monad (Action Code Host) where
  pure a := fun w => { result := a, world := w, log := [] }
  bind x f := fun w =>
    let first := x w
    let second := f first.result first.world
    { second with log := first.log ++ second.log }

/-- The current world. -/
def getWorld : Action Code Host (World Code Host) := fun w => { result := w, world := w, log := [] }

/-- A part of the current world. -/
def gets (f : World Code Host → α) : Action Code Host α :=
  fun w => { result := f w, world := w, log := [] }

/-- Changes the world. -/
def modify (f : World Code Host → World Code Host) : Action Code Host Unit :=
  fun w => { result := (), world := f w, log := [] }

/-- Changes the world and gives a result. -/
def transform (f : World Code Host → α × World Code Host) : Action Code Host α :=
  fun w =>
    let (a, w') := f w
    { result := a, world := w', log := [] }

/-- Writes a record. -/
def record (r : LogRecord) : Action Code Host Unit :=
  fun w => { result := (), world := w, log := [r] }

/-- Runs an action and gives its records along with its result, instead of writing them. -/
def listen (x : Action Code Host α) : Action Code Host (α × List LogRecord) :=
  fun w =>
    let done := x w
    { result := (done.result, done.log), world := done.world, log := [] }

@[simp] theorem run_pure (a : α) (w : World Code Host) :
    (pure a : Action Code Host α).run w = { result := a, world := w, log := [] } := rfl

@[simp] theorem run_bind (x : Action Code Host α) (f : α → Action Code Host β)
    (w : World Code Host) :
    (x >>= f).run w =
      { (f (x.run w).result).run (x.run w).world with
        log := (x.run w).log ++ ((f (x.run w).result).run (x.run w).world).log } := rfl

@[simp] theorem run_getWorld (w : World Code Host) :
    (getWorld : Action Code Host _).run w = { result := w, world := w, log := [] } := rfl

@[simp] theorem run_gets (f : World Code Host → α) (w : World Code Host) :
    (gets f).run w = { result := f w, world := w, log := [] } := rfl

@[simp] theorem run_modify (f : World Code Host → World Code Host) (w : World Code Host) :
    (modify f).run w = { result := (), world := f w, log := [] } := rfl

@[simp] theorem run_record (r : LogRecord) (w : World Code Host) :
    (record r : Action Code Host Unit).run w = { result := (), world := w, log := [r] } := rfl

@[simp] theorem run_transform (f : World Code Host → α × World Code Host) (w : World Code Host) :
    (transform f).run w = { result := (f w).1, world := (f w).2, log := [] } := rfl

@[simp] theorem run_listen (x : Action Code Host α) (w : World Code Host) :
    x.listen.run w =
      { result := ((x.run w).result, (x.run w).log), world := (x.run w).world, log := [] } := rfl

@[simp] theorem run_map (f : α → β) (x : Action Code Host α) (w : World Code Host) :
    (f <$> x).run w = { x.run w with result := f (x.run w).result } := by
  have unfolded : (f <$> x).run w =
      { x.run w with result := f (x.run w).result, log := (x.run w).log ++ [] } := rfl
  rw [unfolded, List.append_nil]

instance : LawfulMonad (Action Code Host) :=
  LawfulMonad.mk' _
    (fun x => funext fun w => run_map id x w)
    (fun _ _ => rfl)
    (fun x f g => by funext w; simp [bind, List.append_assoc])

/-! ## Borrowing -/

/-- Runs `body` on the contents of a storage while it is borrowed for reading. -/
def withShared (id : StorageId) (body : Array Value → Action Code Host α) :
    Action Code Host (Except StorageError α) := do
  match (← gets (·.borrow id)).share? with
  | none => return .error .busy
  | some borrowed =>
    modify (·.setBorrow id borrowed)
    let a ← body (← gets (·.cells id))
    modify fun w => w.setBorrow id (w.borrow id).release
    return .ok a

/-- Runs `body` while a storage is borrowed for writing. -/
def withExclusive (id : StorageId) (body : Action Code Host α) :
    Action Code Host (Except StorageError α) := do
  match (← gets (·.borrow id)).claim? with
  | none => return .error .busy
  | some borrowed =>
    modify (·.setBorrow id borrowed)
    let a ← body
    modify fun w => w.setBorrow id (w.borrow id).release
    return .ok a

/-- A refused borrow has no effect; a granted one ends with the body. -/
theorem run_withShared (id : StorageId) (body : Array Value → Action Code Host α)
    (w : World Code Host) :
    (withShared id body).run w = match (w.borrow id).share? with
      | none => { result := .error .busy, world := w, log := [] }
      | some borrowed =>
        let inside := (body (w.cells id)).run (w.setBorrow id borrowed)
        { result := .ok inside.result
          world := inside.world.setBorrow id (inside.world.borrow id).release
          log := inside.log } := by
  simp only [withShared, run_bind, run_gets, List.nil_append]
  cases (w.borrow id).share? <;> simp

theorem run_withExclusive (id : StorageId) (body : Action Code Host α) (w : World Code Host) :
    (withExclusive id body).run w = match (w.borrow id).claim? with
      | none => { result := .error .busy, world := w, log := [] }
      | some borrowed =>
        let inside := body.run (w.setBorrow id borrowed)
        { result := .ok inside.result
          world := inside.world.setBorrow id (inside.world.borrow id).release
          log := inside.log } := by
  simp only [withExclusive, run_bind, run_gets, List.nil_append]
  cases (w.borrow id).claim? <;> simp

end Action

/-- The meaning of the code of the host program. A receiver is given to instance members only. -/
structure Behaviour (Code Host : Type) where
  /-- Reads a property. -/
  getter : Code → Option Value → Action Code Host Value
  /-- Writes a property. -/
  setter : Code → Option Value → Value → Action Code Host (Except WriteError Unit)
  /-- Calls a method. -/
  method : Code → Option Value → Action Code Host Value
  /-- Makes the first value of a field. -/
  initial : Code → Action Code Host Value

end ObjectGraph
