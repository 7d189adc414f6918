import ObjectGraph.Access.DeferredWrite
import ObjectGraph.Path.Segment
import ObjectGraph.View

/-!
# Reading and writing along paths

`getValue` follows a path from a root: each token is read from the value that the token before it
has given. `set` follows the path in the same way but one token behind, and then writes the last
token into the value reached by all others.

A malformed segment is noticed when the token before it is due. Reading has taken that step by
then; writing, being one token behind, has not.

The root must not be null. `getValue`, `get` and `set` leave their records in the log; `walk` and
`write` are the loops without the record of the call as a whole.
-/

namespace ObjectGraph

open ObjectGraph.Action

variable {Code Host : Type}

namespace PathAccess

/-- Reads one token, and records what it gave. -/
def step (beh : Behaviour Code Host) (options : AccessOptions) (container : Value)
    (token : OffsetToken) : Action Code Host (Except AccessError Value) := do
  match ← readStep beh options container token.token with
  | .error fault => return .error (.atToken token fault)
  | .ok v =>
    record (.step token.token v.tag)
    return .ok v

/-- Reads some tokens one after the other, beginning at `current`, then reports the malformed
segment behind them, if there is one. -/
def walk (beh : Behaviour Code Host) (options : AccessOptions) (malformed : Option ParseError) :
    Value → List OffsetToken → Action Code Host (Except AccessError Value)
  | current, [] =>
    match malformed with
    | none => pure (.ok current)
    | some e => pure (.error (.ofParse e))
  | current, token :: tokens => do
    match ← step beh options current token with
    | .error e => return .error e
    | .ok v => walk beh options malformed v tokens

/-- Writes the last token, and records that it is about to be written. -/
def writeLast (beh : Behaviour Code Host) (container : Value) (token : OffsetToken) (v : Value) :
    Action Code Host (Except AccessError Unit) := do
  record (.write token.token container.tag)
  match ← DeferredWrite.apply beh { container, token := token.token } v with
  | .error fault => return .error (.atToken token fault)
  | .ok _ => return .ok ()

/-- Reads all tokens but the last, beginning at `current`, and writes the last. If a malformed
segment follows, the token before it is neither read nor written. -/
def write (beh : Behaviour Code Host) (options : AccessOptions) (malformed : Option ParseError)
    (v : Value) (deferred : OffsetToken) :
    Value → List OffsetToken → Action Code Host (Except AccessError Unit)
  | current, [] =>
    match malformed with
    | none => writeLast beh current deferred v
    | some e => pure (.error (.ofParse e))
  | current, token :: tokens => do
    match ← step beh options current deferred with
    | .error e => return .error e
    | .ok reached => write beh options malformed v token reached tokens

/-- Leaves a record if a call has failed. -/
def recordFailure {α : Type} (failed : AccessError → LogRecord)
    (call : Action Code Host (Except AccessError α)) :
    Action Code Host (Except AccessError α) := do
  match ← call with
  | .ok a => return .ok a
  | .error e =>
    record (failed e)
    return .error e

/-- The value at a path. The empty path gives the root itself. -/
def getValue (beh : Behaviour Code Host) (options : AccessOptions) (root : Value)
    (path : String) : Action Code Host (Except AccessError Value) :=
  let scan := scanPath path
  recordFailure (.readFailed path) (walk beh options scan.error root scan.tokens)

/-- The value at a path, viewed as a native type. -/
def get (beh : Behaviour Code Host) (options : AccessOptions) (type : NativeType) (root : Value)
    (path : String) : Action Code Host (Except AccessError View) := do
  match ← getValue beh options root path with
  | .error e => return .error e
  | .ok v =>
    match v.view? type with
    | some view => return .ok view
    | none =>
      recordFailure (.readFailed path)
        (pure (.error (.wholePath (.typeMismatch type.text v.tag))))

/-- The value at a path, viewed as a native type; nothing on any failure. -/
def tryGet (beh : Behaviour Code Host) (options : AccessOptions) (type : NativeType)
    (root : Value) (path : String) : Action Code Host (Option View) := do
  return (← get beh options type root path).toOption

/-- Writes a value at a path. -/
def set (beh : Behaviour Code Host) (options : AccessOptions) (root : Value) (path : String)
    (v : Value) : Action Code Host (Except AccessError Unit) :=
  let scan := scanPath path
  recordFailure (.writeFailed path) <|
    match scan.tokens, scan.error with
    | deferred :: tokens, malformed => write beh options malformed v deferred root tokens
    | [], some e => pure (.error (.ofParse e))
    | [], none => pure (.error (.wholePath (.notWritable .root path)))

/-- Refuses to follow a path from null. -/
def fromRoot {α : Type} (root : Value) (call : Action Code Host α) :
    Action Code Host (Except Misuse α) :=
  if root.isNull then pure (.error .nullRoot)
  else do return .ok (← call)

end PathAccess

end ObjectGraph
