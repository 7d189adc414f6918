import ObjectGraph.Access.PathAccess

/-!
# Outcomes

The outcome of an action in a world is its result together with the world that it leaves. Two
actions of one outcome may differ in the log records that they write, and in nothing else.

Code of the host runs inside an action and may change the host's part of the world. So when two
actions have the same outcome for every behaviour of the host's code, the same code has run in the
same order in both: a host that keeps a list of its calls would tell them apart otherwise.
-/

namespace ObjectGraph

variable {Code Host α β : Type}

/-- A host without code. -/
def Behaviour.idle : Behaviour Empty Host := ⟨nofun, nofun, nofun, nofun⟩

/-- Code that does nothing. -/
def Behaviour.still : Behaviour Code Host where
  getter := fun _ _ => pure .null
  setter := fun _ _ _ => pure (.ok ())
  method := fun _ _ => pure .null
  initial := fun _ => pure .null

namespace Action

/-- What an action gives and the world that it leaves. -/
def outcome (x : Action Code Host α) (w : World Code Host) : α × World Code Host :=
  ((x.run w).result, (x.run w).world)

theorem outcome_of_run {x : Action Code Host α} {w w' : World Code Host} {a : α}
    {log : List LogRecord} (ran : x.run w = ⟨a, w', log⟩) : x.outcome w = (a, w') := by
  rw [outcome, ran]

theorem run_of_outcome {x : Action Code Host α} {w w' : World Code Host} {a : α}
    (ended : x.outcome w = (a, w')) : ∃ log, x.run w = ⟨a, w', log⟩ := by
  cases ended
  exact ⟨(x.run w).log, rfl⟩

@[simp] theorem outcome_pure (a : α) (w : World Code Host) :
    (pure a : Action Code Host α).outcome w = (a, w) := rfl

@[simp] theorem outcome_bind (x : Action Code Host α) (f : α → Action Code Host β)
    (w : World Code Host) :
    (x >>= f).outcome w = (f (x.outcome w).1).outcome (x.outcome w).2 := rfl

@[simp] theorem outcome_record (r : LogRecord) (w : World Code Host) :
    (record r : Action Code Host Unit).outcome w = ((), w) := rfl

@[simp] theorem outcome_gets (f : World Code Host → α) (w : World Code Host) :
    (gets f : Action Code Host α).outcome w = (f w, w) := rfl

@[simp] theorem outcome_getWorld (w : World Code Host) :
    (getWorld : Action Code Host _).outcome w = (w, w) := rfl

@[simp] theorem outcome_modify (f : World Code Host → World Code Host) (w : World Code Host) :
    (modify f : Action Code Host Unit).outcome w = ((), f w) := rfl

@[simp] theorem outcome_map (f : α → β) (x : Action Code Host α) (w : World Code Host) :
    (f <$> x).outcome w = (f (x.outcome w).1, (x.outcome w).2) := by
  simp [outcome]

end Action

namespace PathAccess

open ObjectGraph.Action

/-- The record of a failed call is all that it adds to the call. -/
@[simp] theorem outcome_recordFailure (failed : AccessError → LogRecord)
    (call : Action Code Host (Except AccessError α)) (w : World Code Host) :
    (recordFailure failed call).outcome w = call.outcome w := by
  rw [recordFailure, outcome_bind]
  rcases found : call.outcome w with ⟨e | a, w'⟩ <;> rfl

theorem result_recordFailure (failed : AccessError → LogRecord)
    (call : Action Code Host (Except AccessError α)) (w : World Code Host) :
    ((recordFailure failed call).run w).result = (call.run w).result :=
  congrArg Prod.fst (outcome_recordFailure failed call w)

theorem run_recordFailure_congr {failed : AccessError → LogRecord}
    {call call' : Action Code Host (Except AccessError α)} {w : World Code Host}
    (same : call'.run w = call.run w) :
    (recordFailure failed call').run w = (recordFailure failed call).run w := by
  simp only [recordFailure, run_bind, same]

end PathAccess

end ObjectGraph
