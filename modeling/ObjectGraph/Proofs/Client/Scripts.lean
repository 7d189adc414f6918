import ObjectGraph.Proofs.Client.Bounds

/-!
# Access by name stays in bounds

Scripts stay in bounds, since commands do, and so does the code of members, which is made of
scripts that call less deeply. A script that begins with nothing begins in bounds. So in every state
that it can reach the storages have their sizes, and no access by name has failed for want of a
slot, be it along a path or to a field, on the way there or in the state itself.

1. `keeps_carryOut`, `keeps_run`: one command and whole scripts;
2. `obedient_scripts`: the code of members;
3. `sized_final`, `intact_final`, `bounded_final`: the states that a script can reach.
-/

namespace ObjectGraph.Client

open ObjectGraph.Action

variable {Code : Type} {claimed : Address → Option Nat} {w : World Code Memory} {P : Prop}

/-! ## 1. Scripts -/

theorem keeps_hold (vs : List Value) :
    Keeps claimed (hold vs) w (∀ v ∈ vs, w.Whole v) fun _ _ => True := by
  refine keeps_modifyMemory (fun sized whole v member => ?_) fun sized _ => sized.ledger
  rcases List.mem_append.1 member with new | old
  · exact whole v new
  · exact sized.known v old

/-- What is entered in the ledger is true, if the lengths are as claimed. -/
theorem keeps_enter {p : World Code Memory → Prop}
    (h : w.Sized claimed → P → w.Lengths claimed → p w) :
    Keeps claimed (enter p) w P fun _ _ => True :=
  keeps_modify fun sized given_ => World.sized_host sized sized.known
    fun lengths => ⟨sized.ledger lengths, h sized given_ lengths⟩

theorem keeps_enterSizes : Keeps claimed (enterSizes claimed) w P fun _ _ => True :=
  keeps_enter fun sized _ lengths => ⟨World.inBounds_of_sized sized, lengths⟩

/-- What is true after a command stays true. -/
theorem Answered.mono {before after : World Code Memory} {command : Command Code}
    {response : Response} (h : Answered before command response w) (grown : w.Grows after) :
    Answered before command response after := by
  refine ⟨fun a array => ?_, fun items new => ?_, h.found⟩
  · obtain ⟨array', size⟩ := h.kept a array
    exact ⟨grown.shapes a _ array', (grown.lengths a array').trans size⟩
  · obtain ⟨a, made, array, size⟩ := h.created items new
    exact ⟨a, made, grown.shapes a _ array, (grown.lengths a array).trans size⟩

theorem whole_given {response : Response} {N : Prop} (within : Within N w response) :
    ∀ v ∈ response.toOption.getD [], w.Whole v := by
  intro v member
  rcases response with e | vs
  · cases member
  · exact within.whole vs rfl v member

variable {beh : Behaviour Code Memory}

theorem keeps_answered (obedient : Obedient (sizes Code claimed) beh) (command : Command Code)
    (w : World Code Memory) :
    Keeps claimed (runCommand beh command) w P fun after response =>
      Within command.ByNumber after response ∧ Answered w command response after := by
  refine (keeps_runCommand obedient command w).imp (fun _ given_ => given_) ?_
  intro _ _ _ grown within
  refine ⟨within, fun a array => ⟨grown.shapes a _ array, grown.lengths a array⟩, ?_, within.found⟩
  rintro items rfl
  exact created_array beh items w

/-- One command of a script. -/
theorem keeps_carryOut (obedient : Obedient (sizes Code claimed) beh) (command : Command Code)
    (w : World Code Memory) : Keeps claimed (carryOut claimed beh command) w P fun _ _ => True := by
  unfold carryOut
  refine .getWorld_bind ?_
  refine .bind (keeps_answered (P := P) obedient command w) fun response answered => ?_
  refine .bind ((keeps_hold _).given fun _ before => whole_given before.2.2.2.1) fun _ held => ?_
  refine .bind keeps_enterSizes fun _ entered => ?_
  refine .bind (keeps_enter ?_) fun _ _ => obeys_pure fun _ _ => trivial
  rintro - ⟨-, ⟨-, ⟨-, -, -, -, answer⟩, grown, -⟩, grown', -⟩ -
  exact (answer.mono grown).mono grown'

/-- A script keeps the world sized, whatever it does, and has a whole result. -/
theorem keeps_run (obedient : Obedient (sizes Code claimed) beh) (script : Script Code)
    (w : World Code Memory) : Keeps claimed (script.run claimed beh) w P WholeResult := by
  -- Induction on the script; what a command leaves is where the rest begins.
  induction script generalizing w P with
  | done result =>
    refine .getWorld_bind (obeys_pure fun sized _ v given_ => ?_)
    rcases result with e | o
    · cases given_
    · cases given_
      exact whole_value sized o
  | look next ih => exact .getWorld_bind (ih w.withoutLedger w)
  | perform command next ih =>
    exact .bind (keeps_carryOut obedient command w) fun response w' => ih response w'

/-! ## 2. The code of members -/

theorem keeps_call (obedient : Obedient (sizes Code claimed) beh) (script : Script Code)
    (arguments : List Value) (w : World Code Memory) :
    Keeps claimed (script.call claimed beh arguments) w (∀ v ∈ arguments, w.Whole v)
      WholeResult :=
  .bind (keeps_hold arguments) fun _ _ =>
    .bind keeps_enterSizes fun _ w'' => keeps_run obedient script w''

/-- Code that is made of scripts obeys, however deeply it is nested. -/
theorem obedient_scripts (scripts : Scripts Code) (claimed : Address → Option Nat) (n : Nat) :
    Obedient (sizes Code claimed) (scripts.behaviour claimed n) := by
  have null (w : World Code Memory) : w.Whole .null := .other nofun nofun
  exact obedient_behaviour null (fun _ obedient script => keeps_call obedient script) n

/-! ## 3. Reachable states -/

/-- Nothing has been declared or created yet. -/
theorem sized_start : ({ host := {} } : World Code Memory).Sized claimed := by
  refine ⟨⟨nofun, nofun, nofun, nofun⟩, rfl, nofun, fun id n count => ?_, fun id v held => ?_,
    nofun, fun _ => trivial⟩
  · cases id with
    | entity a => cases count
    | statics t =>
      cases count
      rfl
  · cases id with
    | entity a => exact absurd held (Array.not_mem_empty v)
    | statics t => exact absurd held (Array.not_mem_empty v)

/-- Every state that a script can reach is sized. -/
theorem sized_final (scripts : Scripts Code) (script : Script Code)
    (claimed : Address → Option Nat) (n : Nat) :
    (script.final scripts claimed n).Sized claimed := by
  have keeps := keeps_run (P := True) (obedient_scripts scripts claimed n) script { host := {} }
  exact (keeps sized_start trivial).1

/-- So all values in such a state unfold into objects and structs that have their slots. -/
theorem intact_final (scripts : Scripts Code) (script : Script Code)
    (claimed : Address → Option Nat) (n : Nat) {v : Value}
    (held : (script.final scripts claimed n).Holds (script.final scripts claimed n).host.known v) :
    (script.final scripts claimed n).Intact v := by
  have sized := sized_final scripts script claimed n
  exact World.intact_of_whole sized (World.whole_of_holds sized held)

/-- Let a script do anything from the start on, with code of members that is as deeply nested as it
may be. All storages are of the right size in the end, and access by name finds its slots. If the
arrays then have the lengths that are claimed of them, the ledger is true: so it has been after each
command, also of those that code has carried out, and the arrays have had these lengths since they
were created with them. If nothing is claimed the ledger is true in any case. -/
theorem bounded_final (scripts : Scripts Code) (script : Script Code)
    (claimed : Address → Option Nat) (n : Nat) :
    let final := script.final scripts claimed n
    final.InBounds final.host.known ∧ (final.Lengths claimed → final.host.sound) := by
  have sized := sized_final scripts script claimed n
  exact ⟨World.inBounds_of_sized sized, sized.ledger⟩

end ObjectGraph.Client
