import ObjectGraph.Script.Session

/-!
# Answering steps

How the results of operations become outcomes of steps. Values are drawn at once, and the wording
of a failure takes the names of types from the current world.
-/

namespace ObjectGraph.Script

open ObjectGraph.Action

def illFormed (why : String) : Act Outcome := pure (.failed (.illFormed why))

def answer (a : Answer) : Act Outcome := pure (.ok a)

/-- Answers with a picture of a value. -/
def answerValue (v : Value) : Act Outcome := do return .ok (.value (← Act.draw v))

/-- Answers with a picture of a value that may be missing. -/
def answerOptional (v : Option Value) : Act Outcome := do
  match v with
  | none => return .ok (.optional none)
  | some v => return .ok (.optional (some (← Act.draw v)))

def writeFailure (e : WriteError) : Act Outcome := do
  let w ← getWorld
  return .failed (.write e (e.message w.types.name))

def accessFailure (e : AccessError) : Act Outcome := do
  let w ← getWorld
  return .failed (.access e (e.message w.types.name))

def faultFailure (fault : AccessFault) : Act Outcome := do
  let w ← getWorld
  return .failed (.fault fault (fault.message w.types.name))

/-- Answers a call that its caller may have had no right to make. -/
def answerCall {α : Type} (onSuccess : α → Act Outcome) : Except Misuse α → Act Outcome
  | .ok a => onSuccess a
  | .error cause => pure (.failed (.misuse cause))

def answerStorage {α : Type} (onSuccess : α → Act Outcome) : Except StorageError α → Act Outcome
  | .ok a => onSuccess a
  | .error cause => pure (.failed (.storage cause))

def answerElement {α : Type} (onSuccess : α → Act Outcome) : Except ElementError α → Act Outcome
  | .ok a => onSuccess a
  | .error cause => pure (.failed (.element cause))

def answerWrite : Except WriteError Unit → Act Outcome
  | .ok _ => answer .done
  | .error cause => writeFailure cause

def answerAccess {α : Type} (onSuccess : α → Act Outcome) : Except AccessError α → Act Outcome
  | .ok a => onSuccess a
  | .error cause => accessFailure cause

/-- Goes on with the type under a key. -/
def withType (key : String) (next : TypeId → Act Outcome) : Act Outcome := do
  match ← Act.type? key with
  | some t => next t
  | none => illFormed "unknown type"

/-- Goes on with a kind. -/
def withKind (kind : Kind String) (next : ValueKind → Act Outcome) : Act Outcome := do
  match ← Act.kind? kind with
  | some kind => next kind
  | none => illFormed "unknown type"

end ObjectGraph.Script
