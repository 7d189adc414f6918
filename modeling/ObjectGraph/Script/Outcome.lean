import ObjectGraph.Export.Tree
import ObjectGraph.Registry
import ObjectGraph.Script.Picture
import ObjectGraph.Type.Summary
import ObjectGraph.Access.Error

/-!
# Outcomes of steps

What a step of a script answers, or why it fails. Answers hold pictures of values, as the values
themselves may change later.
-/

namespace ObjectGraph.Script

/-- What can be asked about a value without looking into it: its sort, the name of its type, and
what it is as each sort of primitive. -/
structure ValueSummary where
  tag : Tag
  isNull : Bool
  isByValue : Bool
  isCollection : Bool
  type : Option String
  bool : Option Bool
  int : Option Int64
  float : Option Binary64
  str : Option String
deriving Repr, Inhabited

/-- Why a step fails. Where the wording needs the names of types, it goes with the cause. -/
inductive Failure where
  | misuse (cause : Misuse)
  | build (cause : BuildError)
  | storage (cause : StorageError)
  | write (cause : WriteError) (message : String)
  | element (cause : ElementError)
  | access (cause : AccessError) (message : String)
  | fault (cause : AccessFault) (message : String)
  | exporting (cause : ExportError)
  /-- The step makes no sense where it stands. -/
  | illFormed (why : String)
  /-- Code called code too many times over. -/
  | tooManyCalls
deriving Repr, Inhabited

mutual

inductive Answer where
  | done
  | flag (b : Bool)
  | number (n : Nat)
  | text (s : String)
  | texts (parts : List String)
  | value (p : Picture)
  | optional (p : Option Picture)
  | view (v : ViewPicture)
  | optionalView (v : Option ViewPicture)
  | summary (s : ValueSummary)
  | type (s : TypeSummary)
  /-- Whether a name is registered, and the type registered under it. -/
  | registered (contains : Bool) (type : Option TypeSummary)
  | registry (size : Nat) (isEmpty : Bool) (names : List String)
  | member (m : Option MemberSummary)
  | resolved (found : Option (String × MemberSummary))
  | slotAndKind (found : Option (Nat × String))
  | items (len : Nat) (isEmpty : Bool) (items : List Picture)
  | written (container : Tag) (token : String)
  | tree (t : Tree)
  | steps (outcomes : List Outcome)
  | fieldsAndSteps (fields : List Picture) (outcomes : List Outcome)

inductive Outcome where
  | ok (answer : Answer)
  | failed (why : Failure)

end

instance : Inhabited Answer := ⟨.done⟩

instance : Inhabited Outcome := ⟨.ok .done⟩

end ObjectGraph.Script
