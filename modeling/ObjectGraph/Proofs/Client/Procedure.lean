import ObjectGraph.Diagnostic
import ObjectGraph.Proofs.Access.Borrows
import ObjectGraph.Proofs.Client.Command
import ObjectGraph.Proofs.Export.Unfolding

/-!
# Procedures

A procedure is a program that may run a part of itself while it borrows a storage: the fields of an
object for reading, or a collection for reading or writing by means of a cursor. The storage is
given back when that part has ended. Inside, all commands may be used, more storages may be
borrowed, and code of members may run, which is made of procedures too. Such code does not see the
borrows of its callers.

Nothing is asked of the state in which a procedure begins. It may have any graph and any storages in
use, for reading or writing, by whomever.

1. `Command.Accesses`: the storages that a command reads and writes;
2. `Protected`, `Enclosed`: what is entered in the ledger after each command and after each block;
3. `Procedure`, `Procedures.behaviour`: procedures, and procedures as the code of members.
-/

namespace ObjectGraph

/-! ## 1. Access to storages -/

namespace World

variable {Code Host : Type}

/-- What a handle lets its holder borrow. Objects are borrowed for reading only. -/
def opens? (w : World Code Host) (v : Value) (forWriting : Bool) : Option Address :=
  match v with
  | .object a =>
    match w.shape? a with
    | some (.object _) => if forWriting then none else some a
    | _ => none
  | .array a => if w.shape? a = some .array then some a else none
  | .list a => if w.shape? a = some .list then some a else none
  | _ => none

/-- Objects and static fields are not being written, unless they have been since the start. Static
fields are in use just as they were then. -/
structure Calm (start w : World Code Host) : Prop where
  objects : ∀ a t, w.shape? a = some (.object t) → w.borrow (.entity a) = .exclusive →
    start.borrow (.entity a) = .exclusive
  statics : ∀ t, w.borrow (.statics t) = start.borrow (.statics t)

/-- What can be learned of storages without a command: an export comes upon what is being written
and is refused, but not for any other reason, and a text says so in place of the length. -/
structure TellsWriting (w : World Code Host) : Prop where
  refused : ∀ v depth, w.isLocked v = true → depth ≤ maxDepth →
    w.exportAt depth v = .error .busy
  busy : ∀ v depth, w.exportAt depth v = .error .busy →
    ∃ position u, w.nodeAt? v position = some u ∧ w.isLocked u = true
  text : ∀ sort a, w.collectionLayout sort a = .text (sort ++
    if w.borrow (.entity a) = .exclusive then "(<busy>)"
    else "(len = " ++ Decimal.text (w.cells (.entity a)).size ++ ")")

end World

namespace Client

variable {Code : Type}

open ObjectGraph.Action PathAccess

/-- A command that opens and closes no borrow. -/
def Command.IsPlain : Command Code → Prop
  | .operate (.borrow ..) | .operate (.release _) => False
  | _ => True

/-- The storage that a command without a path reads, or writes. Access to fields by name is left out
here: it does not tell a field that is being written from one that does not exist. -/
def Command.access? (w : World Code Memory) : Command Code → Option (StorageId × Bool)
  | .operate (.slot on _) =>
    match on.value w.host with
    | .object a => some (.entity a, false)
    | _ => none
  | .operate (.setField on _ _) | .writeSlot on _ _ =>
    match on.value w.host with
    | .object a => some (.entity a, true)
    | _ => none
  | .operate (.static t _) => some (.statics t, false)
  | .writeStatic t _ _ => some (.statics t, true)
  | .operate (.push on _) | .operate (.pop on) | .operate (.truncate on _) =>
    match on.value w.host with
    | .list a => some (.entity a, true)
    | _ => none
  | .operate (.items on) | .operate (.element on _) =>
    (on.value w.host).collection?.map fun a => (.entity a, false)
  | .operate (.setElement on _ _) => (on.value w.host).collection?.map fun a => (.entity a, true)
  | .operate (.write container token _) =>
    match w.place (container.value w.host) token with
    | .cell l => some (l.storage, true)
    | _ => none
  | _ => none

/-- Run in `w`, the command comes to read a storage, or to write it. A command along a path does so
at each token that it arrives at and that names a location. -/
inductive Command.Accesses (beh : Behaviour Code Memory) (w : World Code Memory) :
    Command Code → StorageId → Bool → Prop
  | direct {command : Command Code} {id : StorageId} {writes : Bool} :
      command.access? w = some (id, writes) → Accesses beh w command id writes
  | get {options : AccessOptions} {root : Operand} {path : String} {container : Value}
      {token : OffsetToken} {later : List OffsetToken} {w₁ : World Code Memory} {l : Location} :
      Arrives beh options (root.value w.host) (scanPath path).tokens w container token later w₁ →
      w₁.place container token.token = .cell l →
      Accesses beh w (.operate (.get options root path)) l.storage (reading later)
  | view {options : AccessOptions} {type : NativeType} {root : Operand} {path : String}
      {container : Value} {token : OffsetToken} {later : List OffsetToken}
      {w₁ : World Code Memory} {l : Location} :
      Arrives beh options (root.value w.host) (scanPath path).tokens w container token later w₁ →
      w₁.place container token.token = .cell l →
      Accesses beh w (.view options type root path) l.storage (reading later)
  | set {options : AccessOptions} {root value : Operand} {path : String} {container : Value}
      {token : OffsetToken} {later : List OffsetToken} {w₁ : World Code Memory} {l : Location} :
      Arrives beh options (root.value w.host) (scanPath path).tokens w container token later w₁ →
      w₁.place container token.token = .cell l →
      Accesses beh w (.operate (.set options root path value)) l.storage (writing later)

/-- The command replaces an element of the storage through a cursor that has it for writing. -/
def Command.Replaces (w : World Code Memory) (command : Command Code) (id : StorageId) : Prop :=
  ∃ i value a cursor, command = .operate (.replace i value) ∧
    w.host.guards[i]? = some ⟨a, true, cursor⟩ ∧ id = .entity a

/-- The location of a field of an object. -/
def fieldLocation? (w : World Code Memory) (v : Value) (name : String) : Option Location :=
  match v with
  | .object a =>
    ((w.typeOf? (.object a)).bind fun t => w.types.instanceField? t name).map fun field =>
      ⟨.entity a, field.1⟩
  | _ => none

/-- The failure is that a storage was not to be had. What a setter has reported is not counted. -/
def Failure.IsBusy : Failure → Prop
  | .storage e => e = .busy
  | .write e => e = .storage .busy
  | .element e => e = .storage .busy
  | .fault cause => cause = .reentrant
  | .access e => e.fault = .reentrant
  | .misuse e => e = .borrowed
  | _ => False

/-- The failure is one that is found before the storage to be written is asked for. -/
def Failure.IsCheck : Failure → Prop
  | .write e => ∀ cause, e ≠ .storage cause
  | .fault cause => ∃ expected found, cause = .typeMismatch expected found
  | .access e => (∃ expected found, e.fault = .typeMismatch expected found) ∨
      ∃ cause, e.fault = .malformed cause
  | _ => False

/-- The answer to an access to a storage that was not to be had. -/
def Refused (writes : Bool) (response : Response) : Prop :=
  ∃ failure, response = .error failure ∧
    (failure.IsBusy ∨ (writes = true ∧ failure.IsCheck))

/-! ## 2. The ledger -/

/-- What is true after a command. -/
structure Protected (start : World Code Memory) (beh : Behaviour Code Memory)
    (before : World Code Memory) (command : Command Code) (response : Response)
    (after : World Code Memory) : Prop where
  calm : start.Calm before
  told : before.TellsWriting
  borrows : before.SameBorrows after
  /-- What is being read does not change. -/
  shared : ∀ id n, before.borrow id = .shared (n + 1) → after.cells id = before.cells id
  /-- What is being written changes through its cursor only, and keeps its length. -/
  exclusive : ∀ id, before.borrow id = .exclusive →
    (after.cells id).size = (before.cells id).size ∧
      (¬ command.Replaces before id → after.cells id = before.cells id)
  /-- Storages that are not to be had are refused. -/
  refused : ∀ id writes, command.Accesses beh before id writes →
    (before.borrow id).Blocks writes → Refused writes response
  /-- Nothing else is refused as being in use. -/
  busy : ∀ failure, response = .error failure → failure.IsBusy →
    ∃ id writes, command.Accesses beh before id writes ∧ (before.borrow id).Blocks writes
  /-- A field that is looked up by its name is found unless it is being written. -/
  fields : ∀ on name l, command = .operate (.field on name) →
    fieldLocation? before (on.value before.host) name = some l →
    response = .ok (if before.borrow l.storage = .exclusive then [] else (before.read? l).toList)

/-- What is true after a block. -/
structure Enclosed (start before : World Code Memory) (on : Operand) (forWriting : Bool)
    (response : Response) (after : World Code Memory) : Prop where
  calm : start.Calm before
  borrows : before.SameBorrows after
  /-- The storage is refused if it is not to be had, and only then. -/
  refused : ∀ a, before.opens? (on.value before.host) forWriting = some a →
    ((before.borrow (.entity a)).Blocks forWriting ↔ response = .error (.storage .busy))
  /-- The storage keeps its length, and for reading its contents. -/
  contents : ∀ a, before.opens? (on.value before.host) forWriting = some a →
    (after.cells (.entity a)).size = (before.cells (.entity a)).size ∧
      (forWriting = false → after.cells (.entity a) = before.cells (.entity a))

/-! ## 3. Procedures -/

/-- Runs a command and comes to hold what it gives. -/
def execute (start : World Code Memory) (beh : Behaviour Code Memory) (command : Command Code) :
    Act Code Response := do
  let before ← getWorld
  let response ← runCommand beh command
  hold (response.toOption.getD [])
  enter (Protected start beh before command response)
  return response

/-- Runs the body while a guard is at hand. -/
def guarded {α : Type} (guard : Guard) (body : Act Code α) : Act Code α := do
  let count ← gets (·.host.guards.length)
  modifyMemory fun m => { m with guards := m.guards ++ [guard] }
  let result ← body
  modifyMemory fun m => { m with guards := m.guards.take count }
  return result

/-- Runs the body while a storage is borrowed. -/
def borrowed {α : Type} (a : Address) (forWriting : Bool) (body : Act Code α) :
    Act Code (Except StorageError α) :=
  let inside := guarded ⟨a, forWriting, .start⟩ body
  if forWriting then withExclusive (.entity a) inside
  else withShared (.entity a) fun _ => inside

/-- The answer to a block: that the storage was not to be had, or the result of the body. -/
def respondBlock : Except StorageError (Except WriteError Value) → Response
  | .error e => .error (.storage e)
  | .ok result => respond .write ([·]) result

/-- Runs the body while what a handle leads to is borrowed. -/
def openBlock (on : Operand) (forWriting : Bool) (body : Act Code (Except WriteError Value)) :
    Act Code Response := do
  let w ← getWorld
  match w.opens? (on.value w.host) forWriting with
  | none => return .error .notApplicable
  | some a => return respondBlock (← borrowed a forWriting body)

/-- Runs a block and comes to hold what its body gives. -/
def enclose (start : World Code Memory) (on : Operand) (forWriting : Bool)
    (body : Act Code (Except WriteError Value)) : Act Code Response := do
  let before ← getWorld
  let response ← openBlock on forWriting body
  hold (response.toOption.getD [])
  enter (Enclosed start before on forWriting response)
  return response

/-- A sequence of commands and blocks, each chosen by what has been seen before, and a result. -/
inductive Procedure (Code : Type) where
  | done (result : Except WriteError Operand)
  | look (next : World Code Memory → Procedure Code)
  | perform (command : Command Code) (plain : command.IsPlain) (next : Response → Procedure Code)
  | block (on : Operand) (forWriting : Bool) (body : Procedure Code)
      (next : Response → Procedure Code)

/-- Runs a procedure. -/
def Procedure.run (start : World Code Memory) (beh : Behaviour Code Memory) :
    Procedure Code → Act Code (Except WriteError Value)
  | .done result => do return result.map (·.value (← getWorld).host)
  | .look next => do (next (← getWorld).withoutLedger).run start beh
  | .perform command _ next => do (next (← execute start beh command)).run start beh
  | .block on forWriting body next => do
    (next (← enclose start on forWriting (body.run start beh))).run start beh

/-- Runs the body without the guards that are at hand. -/
def apart {α : Type} (body : Act Code α) : Act Code α := do
  let guards ← gets (·.host.guards)
  modifyMemory fun m => { m with guards := [] }
  let result ← body
  modifyMemory fun m => { m with guards }
  return result

/-- Runs a procedure as the code of a member. It comes to hold its arguments first. -/
def Procedure.call (start : World Code Memory) (beh : Behaviour Code Memory)
    (procedure : Procedure Code) (arguments : List Value) :
    Act Code (Except WriteError Value) :=
  apart do
    hold arguments
    procedure.run start beh

/-- The procedures that are the code of members. -/
abbrev Procedures (Code : Type) : Type := MemberCode Code (Procedure Code)

/-- The code of members, when calls are nested at most `n` deep. -/
def Procedures.behaviour (procedures : Procedures Code) (start : World Code Memory) (n : Nat) :
    Behaviour Code Memory :=
  MemberCode.behaviour procedures (Procedure.call start) n

/-- The world as a client finds it that holds some values but no borrow. -/
def fresh (w : World Code Memory) : World Code Memory :=
  { w with host := { known := w.host.known } }

/-- The world that a procedure leaves when it begins in a world with any storages in use. -/
def Procedure.final (procedure : Procedure Code) (procedures : Procedures Code) (n : Nat)
    (w : World Code Memory) : World Code Memory :=
  let start := fresh w
  ((procedure.run start (procedures.behaviour start n)).outcome start).2

end Client

end ObjectGraph
