import ObjectGraph.Export.Tree
import ObjectGraph.Proofs.Client.Program

/-!
# Commands

Besides the operations of programs there are ways into a graph that look at no kinds: slots of
objects and of static storages can be written by their number. A script is a program that may use
these as well, with any values, and whose types may begin their fields with values that the kinds
would refuse. What still holds of every graph that scripts lead to is that its storages have the
right sizes, so that access by name finds the slot that it looks for.

A command keeps the lengths of all arrays. That an array has one length from its creation on, also
while code runs inside a command, is about any two moments of a run. It is put like this: whatever
lengths are claimed, if they are those that the arrays have in the end, they are those that the
arrays have had all along. A claim has no part in what a script does.

1. `World.InBounds`, `World.Lengths`: storages of the right size, and what follows for access by
   name;
2. `Command`, `Answered`: the commands, and what is entered in the ledger for each of them;
3. `Script`, `Scripts.behaviour`: scripts, and scripts as the code of members.
-/

namespace ObjectGraph

/-! ## 1. Sizes -/

namespace World

variable {Code Host : Type}

/-- Every object and struct has as many slots as its type has, every type has as many static slots
as it declares static fields, and no access by name looks for a slot that does not exist. -/
structure InBounds (w : World Code Host) (others : List Value) : Prop where
  objects : ∀ a t, w.shape? a = some (.object t) →
    (w.cells (.entity a)).size = (w.types.info t).fieldSlots
  structs : ∀ t fields, w.Holds others (.struct t fields) →
    fields.length = (w.types.info t).fieldSlots
  statics : ∀ t < w.types.size,
    (w.cells (.statics t)).size = (w.types.info t).staticSlots.length
  /-- A field of an object is not found only if there is none, or the object is being written. -/
  objectFields : ∀ a t name, w.shape? a = some (.object t) →
    ((objectField? a name).outcome w).1 = none →
    w.types.instanceField? t name = none ∨ w.borrow (.entity a) = .exclusive
  /-- A field of a struct is not found only if there is none. -/
  structFields : ∀ t fields name, w.Holds others (.struct t fields) →
    structField? w.types t fields name = none → w.types.instanceField? t name = none
  /-- No export comes to a field without a slot. -/
  exported : ∀ v depth type key, w.Holds others v →
    w.exportAt depth v ≠ .error (.missingSlot type key)

/-- The arrays have the lengths that are claimed of them. -/
def Lengths (w : World Code Host) (claimed : Address → Option Nat) : Prop :=
  ∀ a len, claimed a = some len → w.shape? a = some .array → (w.cells (.entity a)).size = len

/-- The world as a script sees it. -/
def withoutLedger (w : World Code Client.Memory) : World Code Client.Memory :=
  { w with host := { w.host with sound := True } }

end World

namespace Client

variable {Code : Type}

open ObjectGraph.Action

/-! ## 2. Commands -/

/-- One command of a script. -/
inductive Command (Code : Type) where
  | operate (op : Operation Code)
  /-- Writes a slot of an object by its number. -/
  | writeSlot (on : Operand) (slot : Nat) (value : Operand)
  /-- Writes a static slot by its number. -/
  | writeStatic (t : TypeId) (slot : Nat) (value : Operand)
  /-- Views the value at a path as a native type. -/
  | view (options : AccessOptions) (type : NativeType) (root : Operand) (path : String)

/-- The command names a slot by its number, which need not exist. -/
def Command.ByNumber : Command Code → Prop
  | .operate (.slot ..) | .operate (.static ..) | .writeSlot .. | .writeStatic .. => True
  | _ => False

/-- The failure is that a slot does not exist. What a setter has reported is not counted. -/
def Failure.IsOutOfBounds : Failure → Prop
  | .storage e | .write (.storage e) | .element (.storage e) | .fault (.storage e) =>
    ∃ slot len, e = .slotOutOfBounds slot len
  | .access e => ∃ slot len, e.fault = .storage (.slotOutOfBounds slot len)
  | _ => False

/-- Runs a command. -/
def runCommand (beh : Behaviour Code Memory) : Command Code → Act Code Response
  | .operate op => runOperation beh op
  | .writeSlot on slot value => do
    match ← valueOf on with
    | .object a =>
      return respond .storage (fun _ => []) (← writeSlot (.entity a) slot (← valueOf value))
    | _ => return .error .notApplicable
  | .writeStatic t slot value => do
    return respond .storage (fun _ => []) (← writeSlot (.statics t) slot (← valueOf value))
  | .view options type root path => do
    let root ← valueOf root
    return respondAccess (fun _ => []) (← PathAccess.fromRoot root
      (PathAccess.get beh options type root path))

/-- What is true after a command. -/
structure Answered (before : World Code Memory) (command : Command Code) (response : Response)
    (after : World Code Memory) : Prop where
  /-- An array stays an array of its length. -/
  kept : ∀ a, before.shape? a = some .array → after.shape? a = some .array ∧
    (after.cells (.entity a)).size = (before.cells (.entity a)).size
  /-- A new array has the length that it is created with. -/
  created : ∀ items, command = .operate (.array items) →
    ∃ a, response = .ok [.array a] ∧ after.shape? a = some .array ∧
      (after.cells (.entity a)).size = items.length
  /-- A command that names no slot by its number does not fail for want of a slot. -/
  found : ¬ command.ByNumber → ∀ failure, response = .error failure → ¬ failure.IsOutOfBounds

/-- Enters in the ledger whether something is true. -/
def enter (p : World Code Memory → Prop) : Act Code Unit :=
  modify fun w => { w with host := { w.host with sound := w.host.sound ∧ p w } }

/-- Enters in the ledger whether all is in bounds, and as claimed. -/
def enterSizes (claimed : Address → Option Nat) : Act Code Unit :=
  enter fun w => w.InBounds w.host.known ∧ w.Lengths claimed

/-- Runs a command and comes to hold what it gives. -/
def carryOut (claimed : Address → Option Nat) (beh : Behaviour Code Memory)
    (command : Command Code) : Act Code Response := do
  let before ← getWorld
  let response ← runCommand beh command
  hold (response.toOption.getD [])
  enterSizes claimed
  enter (Answered before command response)
  return response

/-! ## 3. Scripts -/

/-- A sequence of commands, each chosen by what has been seen before, and a result. -/
inductive Script (Code : Type) where
  | done (result : Except WriteError Operand)
  | look (next : World Code Memory → Script Code)
  | perform (command : Command Code) (next : Response → Script Code)

/-- Runs a script. -/
def Script.run (claimed : Address → Option Nat) (beh : Behaviour Code Memory) :
    Script Code → Act Code (Except WriteError Value)
  | .done result => do return result.map (·.value (← getWorld).host)
  | .look next => do (next (← getWorld).withoutLedger).run claimed beh
  | .perform command next => do (next (← carryOut claimed beh command)).run claimed beh

/-- Runs a script that comes to hold its arguments first. -/
def Script.call (claimed : Address → Option Nat) (beh : Behaviour Code Memory)
    (script : Script Code) (arguments : List Value) : Act Code (Except WriteError Value) := do
  hold arguments
  enterSizes claimed
  script.run claimed beh

/-- The scripts that are the code of members. -/
abbrev Scripts (Code : Type) : Type := MemberCode Code (Script Code)

/-- The code of members, when calls are nested at most `n` deep. -/
def Scripts.behaviour (scripts : Scripts Code) (claimed : Address → Option Nat) (n : Nat) :
    Behaviour Code Memory :=
  MemberCode.behaviour scripts (Script.call claimed) n

/-- The world that a script leaves when it begins with nothing. -/
def Script.final (script : Script Code) (scripts : Scripts Code)
    (claimed : Address → Option Nat) (n : Nat) : World Code Memory :=
  ((script.run claimed (scripts.behaviour claimed n)).outcome { host := {} }).2

end Client

end ObjectGraph
