import ObjectGraph.Instance
import ObjectGraph.Script.Session

/-!
# Routines

A routine is code of a member. It runs in the session of the script: its steps see the variables,
with the receiver bound to `this` and the value that a setter is given bound to `value`. Both
bindings end with the routine.

`Routine.behaviour` gives routines their meaning from that of steps and expressions.
-/

namespace ObjectGraph.Script

open ObjectGraph.Action

/-- Runs some steps in order and notes their outcomes. -/
def traceSteps (step : Step → Act Outcome) : List Step → Act Unit
  | [] => pure ()
  | s :: steps => do
    Act.trace (← step s)
    traceSteps step steps

/-- Runs the steps of a routine and evaluates its result. -/
def Routine.run (step : Step → Act Outcome) (evaluate : Expr → Act Value) :
    Routine → Act Value
  | .mk steps result _ => do
    traceSteps step steps
    evaluate result

/-- The verdict of a setter. -/
def Verdict.conclude (receiver : Option Value) (v : Value) :
    Verdict → Act (Except WriteError Unit)
  | .store name =>
    match receiver with
    | some (.object a) => setObjectField a name v
    | _ => pure (.ok ())
  | .storeStatic key slot => do
    match ← Act.type? key with
    | none => return .ok ()
    | some t => return (← writeSlot (.statics t) slot v).mapError .storage
  | .judge only failure => do
    let verdict : Except WriteError Unit := match failure with
      | some e => .error e
      | none => .ok ()
    match only with
    | none => return verdict
    | some kind =>
      match ← Act.kind? kind with
      | none => return verdict
      | some kind =>
        if (← getWorld).accepts kind v then return verdict
        else return .error (.kindMismatch kind v.tag)

/-- Runs a setter: its steps see the receiver and the value as variables. What its result would be
does not matter. -/
def Routine.runSetter (step : Step → Act Outcome) (receiver : Option Value) (v : Value) :
    Routine → Act (Except WriteError Unit)
  | .mk steps _ verdict => do
    Act.binding "this" receiver <| Act.binding "value" (some v) <| traceSteps step steps
    verdict.conclude receiver v

/-- The meaning of routines as code of members. -/
def Routine.behaviour (step : Step → Act Outcome) (evaluate : Expr → Act Value) :
    Behaviour Routine Session where
  getter code receiver := Act.binding "this" receiver (code.run step evaluate)
  setter code receiver v := code.runSetter step receiver v
  method code receiver := Act.binding "this" receiver (code.run step evaluate)
  initial code := code.run step evaluate

end ObjectGraph.Script
