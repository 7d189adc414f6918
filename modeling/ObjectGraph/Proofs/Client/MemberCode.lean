import ObjectGraph.Proofs.Access.Discipline

/-!
# The code of members

A client writes the code of members as bodies of some sort. A body is called with its arguments, and
may run code of members itself, so that code is nested. How a body is called is all that tells one
sort from another: the uses of code, the arguments that each passes on and the nesting are the same.

1. `MemberCode`, `MemberCode.behaviour`: bodies as the code of members;
2. `obedient_behaviour`: code obeys if the calls of bodies do.
-/

namespace ObjectGraph.Client

variable {Code Host Body : Type}

/-! ## 1. Bodies -/

/-- The bodies that are the code of members. -/
structure MemberCode (Code Body : Type) where
  getter : Code → Body
  setter : Code → Body
  method : Code → Body
  initial : Code → Body

/-- The value of a call that is not expected to fail. -/
def valueOr (result : Except WriteError Value) : Value := result.toOption.getD .null

/-- The code of members, when bodies are called in this way. The receiver comes first among the
arguments, a value that is written last. -/
def MemberCode.calling (members : MemberCode Code Body)
    (call : Body → List Value → Action Code Host (Except WriteError Value)) :
    Behaviour Code Host where
  getter code receiver := valueOr <$> call (members.getter code) receiver.toList
  setter code receiver v :=
    (·.map fun _ => ()) <$> call (members.setter code) (receiver.toList ++ [v])
  method code receiver := valueOr <$> call (members.method code) receiver.toList
  initial code := valueOr <$> call (members.initial code) []

/-- The code of members, when calls are nested at most `n` deep. Deeper code does nothing. A run
that ends nests its calls to some depth, so it is a run with that bound, or with a greater one. -/
def MemberCode.behaviour (members : MemberCode Code Body)
    (call : Behaviour Code Host → Body → List Value → Action Code Host (Except WriteError Value)) :
    Nat → Behaviour Code Host
  | 0 => .still
  | n + 1 => members.calling (call (members.behaviour call n))

/-! ## 2. Obedience -/

variable {d : PathDiscipline Code Host} {members : MemberCode Code Body}

/-- Calls that are given good values obey, and give good values. -/
def ObedientCalls (d : PathDiscipline Code Host)
    (call : Body → List Value → Action Code Host (Except WriteError Value)) : Prop :=
  ∀ body arguments w, Obeys d.toDiscipline (call body arguments) w (∀ v ∈ arguments, d.good w v)
    fun w' result => ∀ v, result = .ok v → d.good w' v

variable (null : ∀ w, d.good w .null)
include null

theorem good_valueOr {w : World Code Host} {result : Except WriteError Value}
    (good : ∀ v, result = .ok v → d.good w v) : d.good w (valueOr result) := by
  rcases result with e | v
  · exact null w
  · exact good v rfl

theorem obedient_still : Obedient d .still := by
  refine ⟨fun _ _ w => ?_, fun _ _ _ w => ?_, fun _ _ w => ?_, fun _ w => ?_⟩
  · exact obeys_pure fun _ _ => null w
  · exact obeys_pure fun _ _ => trivial
  · exact obeys_pure fun _ _ => null w
  · exact obeys_pure fun _ _ => null w

theorem obedient_calling
    {call : Body → List Value → Action Code Host (Except WriteError Value)}
    (calls : ObedientCalls d call) : Obedient d (members.calling call) := by
  refine ⟨fun code receiver w => ?_, fun code receiver v w => ?_, fun code receiver w => ?_,
    fun code w => ?_⟩
  · exact ((calls _ receiver.toList w).given fun _ good v given_ =>
      good v (Option.mem_toList.1 given_)).map fun _ _ => good_valueOr null
  · refine ((calls _ (receiver.toList ++ [v]) w).given ?_).map fun _ _ _ => trivial
    rintro - ⟨good_receiver, good_value⟩ u given_
    rcases List.mem_append.1 given_ with first | last
    · exact good_receiver u (Option.mem_toList.1 first)
    · rw [List.mem_singleton.1 last]
      exact good_value
  · exact ((calls _ receiver.toList w).given fun _ good v given_ =>
      good v (Option.mem_toList.1 given_)).map fun _ _ => good_valueOr null
  · exact ((calls _ [] w).given fun _ _ => nofun).map fun _ _ => good_valueOr null

/-- If calls obey whenever the code that they run does, then code obeys however deeply it is nested.
-/
theorem obedient_behaviour
    {call : Behaviour Code Host → Body → List Value → Action Code Host (Except WriteError Value)}
    (calls : ∀ beh, Obedient d beh → ObedientCalls d (call beh)) (n : Nat) :
    Obedient d (members.behaviour call n) := by
  -- Induction on the depth; code that is one level deeper only runs code that obeys.
  induction n with
  | zero => exact obedient_still null
  | succ n ih => exact obedient_calling null (calls _ ih)

end ObjectGraph.Client
