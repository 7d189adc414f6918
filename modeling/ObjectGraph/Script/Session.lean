import ObjectGraph.Script.Outcome
import ObjectGraph.Script.Step

/-!
# The session of a script

What a script keeps beside the object graph: its variables, the types and names it has declared,
the numbers of the entities it has shown, and the outcomes of the steps that code has run.
-/

namespace ObjectGraph.Script

/-- The value under a name, which is replaced when the name is entered again. -/
abbrev Bindings (α : Type) := List (String × α)

namespace Bindings

variable {α : Type}

def remove (b : Bindings α) (name : String) : Bindings α := b.filter fun entry => entry.1 != name

def insert (b : Bindings α) (name : String) (a : α) : Bindings α := (name, a) :: b.remove name

/-- Enters a value under a name, or removes the name. -/
def restore (b : Bindings α) (name : String) : Option α → Bindings α
  | some a => b.insert name a
  | none => b.remove name

end Bindings

structure Session where
  /-- The values of the variables. -/
  values : Bindings Value := []
  types : Bindings TypeId := []
  registry : Registry := {}
  /-- The addresses that have been shown, in the order of their numbers. -/
  numbers : Array Address := #[]
  /-- The outcomes of the steps that code has run during the current step of the script. -/
  trace : Array Outcome := #[]
deriving Inhabited

/-- An action of a script. -/
abbrev Act := Action Routine Session

namespace Act

def getSession : Act Session := Action.gets (·.host)

def modifySession (f : Session → Session) : Act Unit :=
  Action.modify fun w => { w with host := f w.host }

/-- The value of a variable. -/
def read? (name : String) : Act (Option Value) :=
  Action.gets (·.host.values.lookup name)

def assign (name : String) (v : Value) : Act Unit :=
  modifySession fun s => { s with values := s.values.insert name v }

/-- Runs an action with a variable bound to a value; after it, the variable is as it was before. -/
def binding {α : Type} (name : String) (v : Option Value) (x : Act α) : Act α := do
  match v with
  | none => x
  | some v =>
    let before ← read? name
    assign name v
    let a ← x
    modifySession fun s => { s with values := s.values.restore name before }
    return a

/-- The type under a key. -/
def type? (key : String) : Act (Option TypeId) := Action.gets (·.host.types.lookup key)

/-- The kind that refers to types by keys. -/
def kind? (kind : Kind String) : Act (Option ValueKind) :=
  Action.gets fun w => kind.traverse fun key => w.host.types.lookup key

/-- Draws a value. Its entities keep their numbers. -/
def draw (v : Value) : Act Picture :=
  Action.transform fun w =>
    let (picture, numbers) := Picture.draw w v w.host.numbers
    (picture, { w with host := { w.host with numbers } })

/-- Draws some values, each in a picture of its own. -/
def drawEach (vs : List Value) : Act (List Picture) := vs.mapM draw

/-- Draws a typed view. -/
def drawView (view : View) : Act ViewPicture :=
  Action.transform fun w =>
    let (picture, numbers) := view.draw w w.host.numbers
    (picture, { w with host := { w.host with numbers } })

/-- Notes the outcome of a step that code has run. -/
def trace (o : Outcome) : Act Unit := modifySession fun s => { s with trace := s.trace.push o }

end Act

end ObjectGraph.Script
