import ObjectGraph.Text.Layout
import ObjectGraph.Text.Padding
import ObjectGraph.Text.Quoted
import ObjectGraph.Text.Shortest
import ObjectGraph.World

/-!
# Diagnostic text

How types, members and values are printed for diagnostics. Objects, arrays and lists are printed
without their contents, so that a cyclic graph has a finite text; an object is told by its type
only, the place of its address being held by the word `ADDR`.
-/

namespace ObjectGraph

variable {Code Host : Type}

/-- Numbers from `0.0001` up to `10^16` are printed positionally; of two shortest decimals equally
near to a number, the greater one is taken. -/
def Binary64.diagnosticFormat : FloatFormat :=
  { leastPositional := -4, greatestPositional := 15, positiveExponent := "", tie := .up }

/-- The diagnostic text of a number. -/
def Binary64.diagnostic (x : Binary64) : String :=
  if x.isNaN then "NaN"
  else if x.isInfinite then (if x.isNegative then "-inf" else "inf")
  else Binary64.diagnosticFormat.text x

/-! The number 0.1, and both sides of the two ends of positional notation. -/

example : Binary64.diagnostic ⟨0x3fb999999999999a⟩ = "0.1" := by decide +kernel

example : Binary64.diagnostic ⟨0x3f1a36e2eb1c432d⟩ = "0.0001" := by decide +kernel

example : Binary64.diagnostic ⟨0x3ee4f8b588e368f1⟩ = "1e-5" := by decide +kernel

example : Binary64.diagnostic ⟨0x430c6bf526340000⟩ = "1000000000000000.0" := by decide +kernel

example : Binary64.diagnostic ⟨0x4341c37937e08000⟩ = "1e16" := by decide +kernel

namespace TypeTable

/-- The layout of a kind: the sort and the type that it refers to. -/
def kindLayout (types : TypeTable Code) : ValueKind → Layout
  | .struct t => .tuple "Struct" [.text (types.label t)]
  | .object t => .tuple "Object" [.text (types.label t)]
  | .anyObject => .text "AnyObject"
  | kind => .text (kind.text types.name)

def boolLayout (b : Bool) : Layout := .text (if b then "true" else "false")

def visibilityText : Visibility → String
  | .pub => "Public"
  | .nonPublic => "NonPublic"

def contentLayout (types : TypeTable Code) : Content Code → Layout
  | .field slot kind =>
    .record "Field" [("slot", .text (Decimal.text slot)), ("kind", types.kindLayout kind)] false
  | .property _ setter => .record "Property" [("writable", boolLayout setter.isSome)] true
  | .method _ => .record "Method" [] true

def memberLayout (types : TypeTable Code) (m : Member Code) : Layout :=
  .record "MemberInfo"
    [("name", .text (Quoted.string m.name)),
      ("visibility", .text (visibilityText m.visibility)),
      ("is_static", boolLayout m.isStatic),
      ("kind", types.contentLayout m.content)] false

/-- The layout of the description of a type. -/
def layout (types : TypeTable Code) (t : TypeId) : Layout :=
  let info := types.info t
  let kind := match info.kind with
    | .reference => "Class"
    | .value => "Struct"
  let base := match types.base? t with
    | none => .text "None"
    | some b => .tuple "Some" [.text (Quoted.string (types.name b))]
  .record "TypeInfo"
    [("name", .text (Quoted.string info.name)),
      ("kind", .text kind),
      ("base", base),
      ("members", .list (info.members.map types.memberLayout))] true

/-- The text of a kind in a field. Kinds that refer to a type are not fitted. -/
def paddedKind (types : TypeTable Code) (p : Padding) (kind : ValueKind) : String :=
  match kind.word with
  | some word => p.pad word
  | none => kind.text types.name

end TypeTable

namespace World

/-- The layout of an array or list: its length, unless it is being written. -/
def collectionLayout (w : World Code Host) (sort : String) (a : Address) : Layout :=
  match (w.borrow (.entity a)).share? with
  | some _ => .text (sort ++ "(len = " ++ Decimal.text (w.cells (.entity a)).size ++ ")")
  | none => .text (sort ++ "(<busy>)")

mutual

/-- The layout of a value. -/
def layout (w : World Code Host) : Value → Layout
  | .null => .text "Null"
  | .bool b => .text ("Bool(" ++ (if b then "true" else "false") ++ ")")
  | .int n => .text ("Int(" ++ Decimal.intText n.toInt ++ ")")
  | .float x => .text ("Float(" ++ x.diagnostic ++ ")")
  | .char c => .text ("Char(" ++ Quoted.char c ++ ")")
  | .str s => .text ("Str(" ++ Quoted.string s ++ ")")
  | .struct t fields =>
    let parts := w.layouts fields
    .record (w.types.name t)
      ((w.types.instanceFields t).filterMap fun (name, slot) =>
        parts[slot]?.map fun part => (name, part)) false
  | .object a => .text ("Object(" ++ w.typeName (.object a) ++ "@ADDR)")
  | .array a => w.collectionLayout "Array" a
  | .list a => w.collectionLayout "List" a

/-- The layouts of some values. -/
def layouts (w : World Code Host) : List Value → List Layout
  | [] => []
  | v :: vs => w.layout v :: w.layouts vs

end

end World

end ObjectGraph
