import ObjectGraph.Diagnostic
import ObjectGraph.Export.Json
import ObjectGraph.Script.Declaration
import ObjectGraph.Script.Routine

/-!
# Running scripts

Each step is run in a world and has an outcome. A failed step does not end the script.

Code may call code, so how deep such calls may go is limited by a number: `step n` runs a step in
which calls and open storages are nested at most `n` deep.
-/

namespace ObjectGraph.Script

open ObjectGraph.Action

/-! ## Steps inside an open cursor -/

/-- Runs one step while a cursor is open on a collection. -/
def cursorStep (step : Step → Act Outcome) (evaluate : Expr → Act Value) (forWriting : Bool)
    (a : Address) (c : Cursor) (s : Step) : Act (Outcome × Cursor) := do
  match s with
  | .advance =>
    let elements ← gets (·.cells (.entity a))
    let (moved, c) := c.advance elements
    return (.ok (.flag moved), c)
  | .visited => return (.ok (.number c.visited), c)
  | .current =>
    let elements ← gets (·.cells (.entity a))
    return (← answerOptional (c.current? elements), c)
  | .replace value =>
    if forWriting then
      let v ← evaluate value
      let elements ← gets (·.cells (.entity a))
      let (done, elements) := c.replace elements v
      modify (·.modifyCells (.entity a) fun _ => elements)
      return (.ok (.flag done), c)
    else return (.failed (.illFormed "the cursor does not write"), c)
  | s => return (← step s, c)

/-- Runs steps while a cursor is open on a collection. -/
def cursorSteps (step : Step → Act Outcome) (evaluate : Expr → Act Value) (forWriting : Bool)
    (a : Address) : Cursor → List Step → Act (List Outcome)
  | _, [] => pure []
  | c, s :: steps => do
    let (outcome, c) ← cursorStep step evaluate forWriting a c s
    return outcome :: (← cursorSteps step evaluate forWriting a c steps)

/-! ## Steps -/

def typeOutcome (beh : Behaviour Routine Session) : Step → Act Outcome
  | .declareType key kind name clauses => declareType beh key kind name clauses
  | .describe key => withType key fun t => do
    answer (.type ((← getWorld).types.summarize t))
  | .typeText key isBroken => withType key fun t => do
    answer (.text (((← getWorld).types.layout t).render isBroken))
  | .declared key name => withType key fun t => do
    let types := (← getWorld).types
    answer (.member (((types.info t).declaredMember name).map types.summarizeMember))
  | .resolve key name => withType key fun t => do
    let types := (← getWorld).types
    answer (.resolved ((types.resolveMember t name).map fun found =>
      (types.name found.owner, types.summarizeMember found.member)))
  | .instanceField key name => withType key fun t => do
    let types := (← getWorld).types
    answer (.slotAndKind ((types.instanceField? t name).map fun (slot, kind) =>
      (slot, kind.text types.name)))
  | .subtype a b => withType a fun a => withType b fun b => do
    answer (.flag ((← getWorld).types.isSubtype a b))
  | .sameType a b => withType a fun a => withType b fun b => answer (.flag (a == b))
  | .readStatic key slot => withType key fun t => do
    answerStorage answerValue (← readSlot (.statics t) slot)
  | .writeStatic key slot value => withType key fun t => do
    answerStorage (fun _ => answer .done) (← writeSlot (.statics t) slot (← eval beh value))
  | .accepts kind value => withKind kind fun kind => do
    let v ← eval beh value
    answer (.flag ((← getWorld).accepts kind v))
  | .defaultOf kind => withKind kind fun kind => do answerValue (← defaultValue beh kind)
  | .kindText kind => withKind kind fun kind => do
    let types := (← getWorld).types
    answer (.texts [kind.text types.name, (types.kindLayout kind).compact])
  | .sameKind a b => withKind a fun a => withKind b fun b => answer (.flag (a == b))
  | .padKind padding kind => withKind kind fun kind => do
    answer (.text ((← getWorld).types.paddedKind padding kind))
  | .padType padding key => withType key fun t => do
    let types := (← getWorld).types
    answer (.texts [padding.pad (types.name t), padding.pad (types.kind t).text])
  | .register key => withType key fun t => do
    let s ← Act.getSession
    let (done, registry) := s.registry.register ((← getWorld).types.name t) t
    Act.modifySession fun s => { s with registry }
    answer (.flag done)
  | .lookup name => do
    let types := (← getWorld).types
    let s ← Act.getSession
    answer (.registered (s.registry.contains name) ((s.registry.get? name).map types.summarize))
  | .lookupIs name key => withType key fun t => do
    answer (.flag ((← Act.getSession).registry.get? name == some t))
  | .instantiate name => do
    answerOptional (← (← Act.getSession).registry.instantiate beh name)
  | .registry => do
    let r := (← Act.getSession).registry
    answer (.registry r.size r.isEmpty r.names)
  | _ => illFormed "not a step on types"

def valueOutcome (beh : Behaviour Routine Session) : Step → Act Outcome
  | .assign var value => do
    let v ← eval beh value
    Act.assign var v
    answerValue v
  | .showValue value => do answerValue (← eval beh value)
  | .info value => do
    let v ← eval beh value
    let w ← getWorld
    answer (.summary
      { tag := v.tag
        isNull := v.isNull
        isByValue := v.isByValue
        isCollection := v.collection?.isSome
        type := (w.typeOf? v).map w.types.name
        bool := v.bool?
        int := v.int?
        float := v.float?
        str := v.str? })
  | .diagnose value isBroken => do
    let v ← eval beh value
    answer (.text (((← getWorld).layout v).render isBroken))
  | .equal a b => do
    let a ← eval beh a
    answer (.flag (a.equal (← eval beh b)))
  | .sameHandle a b => do
    let a ← eval beh a
    answer (.flag (a.sameHandle (← eval beh b)))
  | .view value type => do
    match (← eval beh value).view? type with
    | none => answer (.optionalView none)
    | some view => answer (.optionalView (some (← Act.drawView view)))
  | .ofNative native => answerValue (.ofNative native)
  | .exportTree value depth => do
    let v ← eval beh value
    match (← getWorld).exportAt depth v with
    | .ok tree => answer (.tree tree)
    | .error cause => return .failed (.exporting cause)
  | .json value => do
    let v ← eval beh value
    match (← getWorld).json v with
    | .ok text => answer (.text text)
    | .error cause => return .failed (.exporting cause)
  | _ => illFormed "not a step on values"

def instanceOutcome (step : Step → Act Outcome) (beh : Behaviour Routine Session) :
    Step → Act Outcome
  | .newObject key => withType key fun t => do answerCall answerValue (← newObject beh t)
  | .newStruct key => withType key fun t => do answerCall answerValue (← newStruct beh t)
  | .field on name => do answerOptional (← fieldOf? (← eval beh on) name)
  | .setField on name value => do
    let owner ← eval beh on
    let v ← eval beh value
    match owner with
    | .object a => answerWrite (← setObjectField a name v)
    | _ => illFormed "not an object"
  | .setStructField var name value => do
    let v ← eval beh value
    match ← Act.read? var with
    | some (.struct t fields) =>
      match setStructField (← getWorld) t fields name v with
      | .ok fields =>
        Act.assign var (.struct t fields)
        answer .done
      | .error cause => writeFailure cause
    | _ => illFormed "not a struct"
  | .slot on slot => do
    match ← eval beh on with
    | .object a => answerStorage answerValue (← readSlot (.entity a) slot)
    | .struct _ fields => answerOptional fields[slot]?
    | _ => illFormed "not an object or struct"
  | .writeSlot on slot value => do
    let owner ← eval beh on
    let v ← eval beh value
    match owner with
    | .object a => answerStorage (fun _ => answer .done) (← writeSlot (.entity a) slot v)
    | _ => illFormed "not an object"
  | .withFields on steps => do
    match ← eval beh on with
    | .object a =>
      let done ← withShared (.entity a) fun cells => do
        let fields ← Act.drawEach cells.toList
        return Answer.fieldsAndSteps fields (← steps.mapM step)
      answerStorage answer done
    | _ => illFormed "not an object"
  | _ => illFormed "not a step on instances"

/-- Goes on with the address of a collection. -/
def withCollection (v : Value) (next : Address → Act Outcome) : Act Outcome :=
  match v.collection? with
  | some a => next a
  | none => illFormed "not a collection"

/-- Goes on with the address of a list. -/
def withList (v : Value) (next : Address → Act Outcome) : Act Outcome :=
  match v with
  | .list a => next a
  | _ => illFormed "not a list"

def collectionOutcome (step : Step → Act Outcome) (beh : Behaviour Routine Session) :
    Step → Act Outcome
  | .push on value => do
    let owner ← eval beh on
    let v ← eval beh value
    withList owner fun a => do answerCall (fun _ => answer .done) (← push a v)
  | .pop on => do
    withList (← eval beh on) fun a => do answerCall answerOptional (← pop a)
  | .truncate on len => do
    withList (← eval beh on) fun a => do answerCall (fun _ => answer .done) (← truncate a len)
  | .items on => do
    withCollection (← eval beh on) fun a => do
      answerCall (fun found => do
        answer (.items found.size found.isEmpty (← Act.drawEach found.toList))) (← elements a)
  | .elementAt on index => do
    withCollection (← eval beh on) fun a => do answerElement answerValue (← elementAt a index)
  | .setElementAt on index value => do
    let owner ← eval beh on
    let v ← eval beh value
    withCollection owner fun a => do
      answerElement (fun _ => answer .done) (← setElementAt a index v)
  | .cursor forWriting on steps => do
    withCollection (← eval beh on) fun a => do
      let body := cursorSteps step (eval beh) forWriting a .start steps
      let done ←
        if forWriting then withExclusive (.entity a) body
        else withShared (.entity a) fun _ => body
      answerStorage (fun outcomes => answer (.steps outcomes)) done
  | _ => illFormed "not a step on collections"

def pathOutcome (beh : Behaviour Routine Session) : Step → Act Outcome
  | .get options on path none => do
    let root ← eval beh on
    answerCall (answerAccess answerValue)
      (← PathAccess.fromRoot root (PathAccess.getValue beh options root path))
  | .get options on path (some type) => do
    let root ← eval beh on
    answerCall (answerAccess fun view => do answer (.view (← Act.drawView view)))
      (← PathAccess.fromRoot root (PathAccess.get beh options type root path))
  | .tryGet options on path type => do
    let root ← eval beh on
    let found ← PathAccess.fromRoot root (PathAccess.tryGet beh options type root path)
    answerCall (fun view => do
      match view with
      | none => answer (.optionalView none)
      | some view => answer (.optionalView (some (← Act.drawView view)))) found
  | .set options on path value => do
    let root ← eval beh on
    let v ← eval beh value
    answerCall (answerAccess fun _ => answer .done)
      (← PathAccess.fromRoot root (PathAccess.set beh options root path v))
  | .deferred on token value => do
    let container ← eval beh on
    let v ← eval beh value
    match ← DeferredWrite.apply beh { container, token } v with
    | .ok _ => answer (.written container.tag token.text)
    | .error fault => faultFailure fault
  | .classify error => faultFailure (.ofElement error)
  | _ => illFormed "not a step on paths"

/-- Runs a step, steps nested in it by means of `step`. -/
def stepWith (step : Step → Act Outcome) (beh : Behaviour Routine Session) (s : Step) :
    Act Outcome :=
  match s with
  | .declareType .. | .describe _ | .typeText .. | .declared .. | .resolve .. | .instanceField ..
  | .subtype .. | .sameType .. | .readStatic .. | .writeStatic .. | .accepts .. | .defaultOf _
  | .kindText _ | .sameKind .. | .padKind .. | .padType .. | .register _ | .lookup _
  | .lookupIs .. | .instantiate _ | .registry => typeOutcome beh s
  | .assign .. | .showValue _ | .info _ | .diagnose .. | .equal .. | .sameHandle .. | .view ..
  | .ofNative _ | .exportTree .. | .json _ => valueOutcome beh s
  | .newObject _ | .newStruct _ | .field .. | .setField .. | .setStructField .. | .slot ..
  | .writeSlot .. | .withFields .. => instanceOutcome step beh s
  | .push .. | .pop _ | .truncate .. | .items _ | .elementAt .. | .setElementAt ..
  | .cursor .. => collectionOutcome step beh s
  | .get .. | .tryGet .. | .set .. | .deferred .. | .classify _ => pathOutcome beh s
  | .advance | .visited | .current | .replace _ => illFormed "no cursor is open"

/-! ## Nested calls -/

/-- The code of members when no further call is allowed. -/
def exhausted : Behaviour Routine Session where
  getter _ _ := do
    Act.trace (.failed .tooManyCalls)
    return .null
  setter _ _ _ := do
    Act.trace (.failed .tooManyCalls)
    return .ok ()
  method _ _ := do
    Act.trace (.failed .tooManyCalls)
    return .null
  initial _ := do
    Act.trace (.failed .tooManyCalls)
    return .null

mutual

/-- The meaning of routines that may call each other at most `n` deep. -/
def behaviour : Nat → Behaviour Routine Session
  | 0 => exhausted
  | n + 1 => Routine.behaviour (step n) (fun e w => eval (behaviour n) e w)

/-- Runs a step in which calls and open storages are nested at most `n` deep. -/
def step : Nat → Step → Act Outcome
  | 0, _ => pure (.failed .tooManyCalls)
  | n + 1, s => stepWith (step n) (behaviour n) s

end

/-- How deep calls and open storages may be nested in a script. -/
def maxNesting : Nat := 100000

/-! ## Scripts -/

/-- What a script answers for one of its steps. -/
structure Report where
  outcome : Outcome
  /-- The outcomes of the steps that code has run meanwhile. -/
  trace : List Outcome
  /-- The records written meanwhile, with their wording. -/
  log : List (LogLevel × String)
deriving Inhabited

/-- Runs one step of a script. -/
def runStep (s : Step) : Act Report := do
  Act.modifySession fun session => { session with trace := #[] }
  let (outcome, records) ← listen (step maxNesting s)
  let w ← getWorld
  return {
    outcome
    trace := w.host.trace.toList
    log := records.map fun r => (r.level, r.text w.types.name) }

/-- Runs a script from an empty world. -/
def run (steps : List Step) : List Report :=
  ((steps.mapM runStep : Act (List Report)) { host := {} }).result

end ObjectGraph.Script
