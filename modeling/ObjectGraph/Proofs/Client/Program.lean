import ObjectGraph.Proofs.Client.MemberCode
import ObjectGraph.Proofs.Storage.Location
import ObjectGraph.Proofs.Type.Layout

/-!
# Client programs

A client declares types, creates instances and works on them, and all code of its members does the
same. Such code is a program: it performs operations, one after the other, and may decide what to
do next by anything it sees. What it cannot do is make up handles and structs, or write a slot by
its number: the values that it uses are native data and values that an operation has given to it.

1. `World.KindsSound`: each slot holds a value that its declaration accepts;
2. `Memory`: what a client keeps, and a ledger of what has been true so far;
3. `Operation`, `Program`: the operations and the programs made of them;
4. `Library.behaviour`: programs as the code of members;
5. `obeys_onCollection`, `obeys_onGuard`, `obeys_fromRoot`: what operations ask of a discipline.
-/

namespace ObjectGraph

/-! ## 1. Soundness of kinds -/

namespace World

variable {Code Host : Type}

/-- The slot of an instance of `t` has one declaration, and that declaration accepts the value. -/
def SlotSound (w : World Code Host) (t : TypeId) (slot : Nat) (v : Value) : Prop :=
  ∃ owner i kind, w.types.Declares t slot owner i kind ∧
    (∀ owner' i' kind', w.types.Declares t slot owner' i' kind' → owner' = owner ∧ i' = i) ∧
    w.accepts kind v = true

/-- The static slot of `t` has one declaration, and that declaration accepts the value. -/
def StaticSound (w : World Code Host) (t : TypeId) (slot : Nat) (v : Value) : Prop :=
  ∃ i kind, w.types.DeclaresStatic t slot i kind ∧
    (∀ i' kind', w.types.DeclaresStatic t slot i' kind' → i' = i) ∧
    w.accepts kind v = true

/-- The value is in a storage or among some other values, or in a field of a struct that is. -/
inductive Holds (w : World Code Host) (others : List Value) : Value → Prop
  | cell {id : StorageId} {v : Value} : v ∈ w.cells id → Holds w others v
  | other {v : Value} : v ∈ others → Holds w others v
  | field {t : TypeId} {fields : List Value} {v : Value} :
      Holds w others (.struct t fields) → v ∈ fields → Holds w others v

/-- Every slot of every object, of every struct wherever it is stored, and of every static storage
holds a value that is accepted by the kind of the one declaration of the slot. -/
structure KindsSound (w : World Code Host) (others : List Value) : Prop where
  objects : ∀ a t slot v, w.shape? a = some (.object t) → w.read? ⟨.entity a, slot⟩ = some v →
    w.SlotSound t slot v
  structs : ∀ t fields slot v, w.Holds others (.struct t fields) → fields[slot]? = some v →
    w.SlotSound t slot v
  statics : ∀ t slot v, w.read? ⟨.statics t, slot⟩ = some v → w.StaticSound t slot v

end World

/-! ## 2. Memory -/

namespace Client

/-- A borrow that a client holds: a cursor on a collection, or the fields of an object, which are
only read. -/
structure Guard where
  address : Address
  forWriting : Bool
  cursor : Cursor
deriving Repr, Inhabited

/-- What a client keeps while it runs. -/
structure Memory where
  /-- All values that it has come to hold, the newest first. -/
  known : List Value := []
  guards : List Guard := []
  /-- Every initial value of a field has been accepted by the kind of the field so far. -/
  accepted : Prop := True
  /-- What is entered after each operation has been true so far, also inside code: of programs, that
  field kinds are sound. -/
  sound : Prop := True

/-- A value that a client can name: a native datum, or a value that it holds. -/
inductive Operand where
  | native (datum : Native)
  | known (i : Nat)
deriving Repr, Inhabited

def Operand.value (m : Memory) : Operand → Value
  | .native datum => .ofNative datum
  | .known i => m.known[i]?.getD .null

variable {Code : Type}

/-- An action of a client. -/
abbrev Act (Code α : Type) : Type := Action Code Memory α

open ObjectGraph.Action

/-- The value of an operand. -/
def valueOf (o : Operand) : Act Code Value := gets fun w => o.value w.host

def modifyMemory (f : Memory → Memory) : Act Code Unit :=
  modify fun w => { w with host := f w.host }

/-- Comes to hold some values. -/
def hold (vs : List Value) : Act Code Unit :=
  modifyMemory fun m => { m with known := vs ++ m.known }

/-! ## 3. Operations -/

/-- One operation. -/
inductive Operation (Code : Type) where
  /-- Declares a type. Each clause comes with the value for its static field, if it declares one. -/
  | declare (kind : TypeKind) (name : String) (clauses : List (Clause Code × Operand))
  | create (t : TypeId)
  | field (on : Operand) (name : String)
  | setField (on : Operand) (name : String) (value : Operand)
  | slot (on : Operand) (slot : Nat)
  | static (t : TypeId) (slot : Nat)
  | get (options : AccessOptions) (root : Operand) (path : String)
  | set (options : AccessOptions) (root : Operand) (path : String) (value : Operand)
  /-- A deferred write. -/
  | write (container : Operand) (token : Token) (value : Operand)
  | array (items : List Operand)
  | list (items : List Operand)
  | push (on value : Operand)
  | pop (on : Operand)
  | truncate (on : Operand) (len : Nat)
  | items (on : Operand)
  | element (on : Operand) (index : UInt64)
  | setElement (on : Operand) (index : UInt64) (value : Operand)
  /-- Opens a cursor on a collection, or borrows the fields of an object for reading. -/
  | borrow (on : Operand) (forWriting : Bool)
  | release (guard : Nat)
  /-- All that a guard borrows. -/
  | contents (guard : Nat)
  | advance (guard : Nat)
  | current (guard : Nat)
  | replace (guard : Nat) (value : Operand)

/-- Why an operation has failed. -/
inductive Failure where
  /-- A type that is named has not been declared. -/
  | undeclared
  /-- An operand is not of the sort that the operation is for. -/
  | notApplicable
  | build (e : BuildError)
  | storage (e : StorageError)
  | write (e : WriteError)
  | element (e : ElementError)
  | fault (e : AccessFault)
  | access (e : AccessError)
  | misuse (e : Misuse)

/-- What an operation answers: the values that it gives, or why it has failed. -/
abbrev Response : Type := Except Failure (List Value)

/-- The answer to a call. -/
def respond {ε α : Type} (failure : ε → Failure) (values : α → List Value)
    (result : Except ε α) : Response :=
  (result.mapError failure).map values

/-- The answer to a call along a path, which may not begin at null. -/
def respondAccess {α : Type} (values : α → List Value) :
    Except Misuse (Except AccessError α) → Response
  | .error e => .error (.misuse e)
  | .ok result => respond .access values result

/-- Gives a static field its value. -/
def withValue (v : Value) : Clause Code → Clause Code
  | .staticField name kind _ => .staticField name kind v
  | clause => clause

/-- The types that a clause names. -/
def typesOf : Clause Code → List TypeId
  | .extends t => [t]
  | .field _ kind | .fieldWith _ kind _ | .staticField _ kind _ => kind.type?.toList
  | _ => []

/-- The default of the kind, made now, is accepted by it. -/
def DefaultAccepted (beh : Behaviour Code Memory) (w : World Code Memory) (kind : ValueKind) :
    Prop :=
  let made := (defaultValue beh kind).outcome w
  made.2.accepts kind made.1 = true

/-- The first values that are given in some clauses, or follow from the kinds in them, are
accepted. -/
def ClausesAccepted (beh : Behaviour Code Memory) (w : World Code Memory)
    (clauses : List (Clause Code)) : Prop :=
  (∀ name kind, .field name kind ∈ clauses → DefaultAccepted beh w kind) ∧
    ∀ name kind v, .staticField name kind v ∈ clauses → w.accepts kind v = true

/-- Declares a type, whose identity is the number of types before it. -/
def declareType (beh : Behaviour Code Memory) (kind : TypeKind) (name : String)
    (clauses : List (Clause Code)) : Act Code Response := do
  let w ← getWorld
  if clauses.all fun clause => (typesOf clause).all (· < w.types.size) then
    match w.declare (.ofClauses kind name clauses) with
    | .error e => return .error (.build e)
    | .ok (_, w') =>
      modify fun _ => w'
      modifyMemory fun m => { m with accepted := m.accepted ∧ ClausesAccepted beh w clauses }
      return .ok []
  else return .error .undeclared

/-- Performs an operation on what a guard borrows. -/
def onGuard (i : Nat) (body : Guard → Array Value → Act Code Response) : Act Code Response := do
  let w ← getWorld
  match w.host.guards[i]? with
  | none => return .error .notApplicable
  | some guard => body guard (w.cells (.entity guard.address))

/-- Performs an operation on an array or list. -/
def onCollection (o : Operand) (body : Address → Act Code Response) : Act Code Response := do
  match (← valueOf o).collection? with
  | none => return .error .notApplicable
  | some a => body a

/-- Performs an operation on a list. -/
def onList (o : Operand) (body : Address → Act Code Response) : Act Code Response := do
  match ← valueOf o with
  | .list a => body a
  | _ => return .error .notApplicable

/-- Borrows the contents of a handle. Objects are not borrowed for writing. -/
def borrow (o : Operand) (forWriting : Bool) : Act Code Response := do
  let v ← valueOf o
  let w ← getWorld
  match if forWriting then v.collection? else v.address? with
  | none => return .error .notApplicable
  | some a =>
    let state := w.borrow (.entity a)
    match if forWriting then state.claim? else state.share? with
    | none => return .error (.storage .busy)
    | some granted =>
      modify (·.setBorrow (.entity a) granted)
      modifyMemory fun m => { m with guards := m.guards ++ [⟨a, forWriting, .start⟩] }
      return .ok []

/-- The fields of objects and structs by name. -/
def readField (o : Operand) (name : String) : Act Code Response := do
  match ← valueOf o with
  | .object a => return .ok (← objectField? a name).toList
  | .struct t fields => return .ok (structField? (← getWorld).types t fields name).toList
  | _ => return .error .notApplicable

/-- Writes a field of an object, or makes a struct with the field written. -/
def writeField (o : Operand) (name : String) (value : Operand) : Act Code Response := do
  let v ← valueOf value
  match ← valueOf o with
  | .object a => return respond .write (fun _ => []) (← setObjectField a name v)
  | .struct t fields =>
    return respond .write (fun fields => [.struct t fields])
      (setStructField (← getWorld) t fields name v)
  | _ => return .error .notApplicable

/-- The slots of objects and structs by number. -/
def readSlotOf (o : Operand) (slot : Nat) : Act Code Response := do
  match ← valueOf o with
  | .object a => return respond .storage ([·]) (← readSlot (.entity a) slot)
  | .struct _ fields => return .ok fields[slot]?.toList
  | _ => return .error .notApplicable

/-- Runs an operation. -/
def runOperation (beh : Behaviour Code Memory) : Operation Code → Act Code Response
  | .declare kind name clauses => do
    let m ← gets (·.host)
    declareType beh kind name (clauses.map fun (clause, o) => withValue (o.value m) clause)
  | .create t => do
    if t < (← getWorld).types.size then return .ok [← newInstance beh t]
    else return .error .undeclared
  | .field on name => readField on name
  | .setField on name value => writeField on name value
  | .slot on i => readSlotOf on i
  | .static t i => do return respond .storage ([·]) (← readSlot (.statics t) i)
  | .get options root path => do
    let root ← valueOf root
    return respondAccess ([·]) (← PathAccess.fromRoot root
      (PathAccess.getValue beh options root path))
  | .set options root path value => do
    let root ← valueOf root
    let v ← valueOf value
    return respondAccess (fun _ => []) (← PathAccess.fromRoot root
      (PathAccess.set beh options root path v))
  | .write container token value => do
    let container ← valueOf container
    let v ← valueOf value
    return respond .fault (fun _ => []) (← DeferredWrite.apply beh { container, token } v)
  | .array items => do return .ok [← newArray (← items.mapM valueOf).toArray]
  | .list items => do return .ok [← newList (← items.mapM valueOf).toArray]
  | .push on value => onList on fun a => do
    return respond .misuse (fun _ => []) (← push a (← valueOf value))
  | .pop on => onList on fun a => do return respond .misuse Option.toList (← pop a)
  | .truncate on len => onList on fun a => do
    return respond .misuse (fun _ => []) (← truncate a len)
  | .items on => onCollection on fun a => do
    return respond .misuse Array.toList (← elements a)
  | .element on index => onCollection on fun a => do
    return respond .element ([·]) (← elementAt a index)
  | .setElement on index value => onCollection on fun a => do
    return respond .element (fun _ => []) (← setElementAt a index (← valueOf value))
  | .borrow on forWriting => borrow on forWriting
  | .release i => onGuard i fun guard _ => do
    modify fun w =>
      w.setBorrow (.entity guard.address) (w.borrow (.entity guard.address)).release
    modifyMemory fun m => { m with guards := m.guards.eraseIdx i }
    return .ok []
  | .contents i => onGuard i fun _ cells => pure (.ok cells.toList)
  | .advance i => onGuard i fun guard cells => do
    let (moved, cursor) := guard.cursor.advance cells
    modifyMemory fun m => { m with guards := m.guards.set i { guard with cursor } }
    return .ok [.bool moved]
  | .current i => onGuard i fun guard cells => pure (.ok (guard.cursor.current? cells).toList)
  | .replace i value => onGuard i fun guard cells => do
    if guard.forWriting then
      let (done, cells) := guard.cursor.replace cells (← valueOf value)
      modify (·.modifyCells (.entity guard.address) fun _ => cells)
      return .ok [.bool done]
    else return .error .notApplicable

/-- Enters in the ledger whether field kinds are sound. -/
def observe : Act Code Unit :=
  modify fun w =>
    { w with host := { w.host with sound := w.host.sound ∧ w.KindsSound w.host.known } }

/-- Runs an operation and comes to hold what it gives. -/
def perform (beh : Behaviour Code Memory) (op : Operation Code) : Act Code Response := do
  let response ← runOperation beh op
  hold (response.toOption.getD [])
  observe
  return response

/-! ## 4. Programs -/

/-- A sequence of operations, each chosen by what has been seen before, and a result. -/
inductive Program (Code : Type) where
  | done (result : Except WriteError Operand)
  | look (next : World Code Memory → Program Code)
  | perform (op : Operation Code) (next : Response → Program Code)

/-- Runs a program. -/
def Program.run (beh : Behaviour Code Memory) :
    Program Code → Act Code (Except WriteError Value)
  | .done result => do return result.map (·.value (← getWorld).host)
  | .look next => do (next (← getWorld)).run beh
  | .perform op next => do (next (← Client.perform beh op)).run beh

/-- The value is accepted by every field that begins with the result of the code. -/
def InitialAccepted (w : World Code Memory) (code : Code) (v : Value) : Prop :=
  ∀ (t : TypeId) (slot : Nat) (kind : ValueKind),
    (w.types.info t).inits[slot]? = some (.computed code) →
    (w.types.fieldKinds t)[slot]? = some kind → w.accepts kind v = true

/-- Enters in the ledger whether the initial value that code has given is accepted. -/
def noteInitial (code : Code) (initial : Act Code Value) : Act Code Value := do
  let v ← initial
  modify fun w =>
    { w with host := { w.host with accepted := w.host.accepted ∧ InitialAccepted w code v } }
  return v

/-- Code whose initial values are noted. -/
def noting (beh : Behaviour Code Memory) : Behaviour Code Memory :=
  { beh with initial := fun code => noteInitial code (beh.initial code) }

/-- Runs a program that comes to hold its arguments first. -/
def Program.call (beh : Behaviour Code Memory) (program : Program Code) (arguments : List Value) :
    Act Code (Except WriteError Value) := do
  hold arguments
  program.run beh

/-- The programs that are the code of members. -/
abbrev Library (Code : Type) : Type := MemberCode Code (Program Code)

/-- The code of members, when calls are nested at most `n` deep. -/
def Library.behaviour (library : Library Code) (n : Nat) : Behaviour Code Memory :=
  noting (MemberCode.behaviour library (fun beh => Program.call (noting beh)) n)

/-- The world that a program leaves when it begins with nothing. -/
def Program.final (program : Program Code) (library : Library Code) (n : Nat) :
    World Code Memory :=
  ((program.run (library.behaviour n)).outcome { host := {} }).2

end Client

/-! ## 5. Operations that obey -/

section

open Client

variable {α : Type} {d : Discipline Code Memory} {w : World Code Memory} {P : Prop}

/-- Looking up the value of an operand. -/
theorem Obeys.valueOf_bind {o : Operand} {f : Value → Act Code α} {Q : World Code Memory → α → Prop}
    (obeys : Obeys d (f (o.value w.host)) w P Q) : Obeys d (valueOf o >>= f) w P Q :=
  .congr rfl obeys

variable {Q : World Code Memory → Response → Prop}

/-- A handle of another sort is refused. -/
theorem obeys_onCollection {o : Operand} {body : Address → Act Code Response}
    (refused : (o.value w.host).collection? = none → Q w (.error .notApplicable))
    (h : ∀ a, (o.value w.host).collection? = some a → Obeys d (body a) w P Q) :
    Obeys d (onCollection o body) w P Q := by
  unfold onCollection
  refine Obeys.valueOf_bind ?_
  split
  · next other => exact obeys_pure fun _ _ => refused other
  · next a here => exact h a here

theorem obeys_onList {o : Operand} {body : Address → Act Code Response}
    (refused : (∀ a, o.value w.host ≠ .list a) → Q w (.error .notApplicable))
    (h : ∀ a, o.value w.host = .list a → Obeys d (body a) w P Q) :
    Obeys d (onList o body) w P Q := by
  unfold onList
  refine Obeys.valueOf_bind ?_
  split
  · next a here => exact h a here
  · next other => exact obeys_pure fun _ _ => refused other

/-- There may be no such guard. -/
theorem obeys_onGuard {i : Nat} {body : Guard → Array Value → Act Code Response}
    (refused : Q w (.error .notApplicable))
    (h : ∀ guard, w.host.guards[i]? = some guard →
      Obeys d (body guard (w.cells (.entity guard.address))) w P Q) :
    Obeys d (onGuard i body) w P Q := by
  unfold onGuard
  refine .getWorld_bind ?_
  split
  · exact obeys_pure fun _ _ => refused
  · next guard here => exact h guard here

/-- No call is made along a path that begins at null. -/
theorem obeys_fromRoot {values : α → List Value} {root : Value}
    {call : Act Code (Except AccessError α)} (refused : Q w (.error (.misuse .nullRoot)))
    (obeys : Obeys d (do return respond .access values (← call)) w P Q) :
    Obeys d (do return respondAccess values (← PathAccess.fromRoot root call)) w P Q := by
  unfold PathAccess.fromRoot
  split
  · exact .of_result rfl fun _ _ => refused
  · refine .congr ?_ obeys
    simp only [Action.outcome_bind, Action.outcome_pure]
    rfl

end

end ObjectGraph
