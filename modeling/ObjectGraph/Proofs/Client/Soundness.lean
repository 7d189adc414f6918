import ObjectGraph.Proofs.Client.Operations

/-!
# Field kinds are sound

Programs are safe, since operations are, and so is the code of members, which is made of programs
that call less deeply. A client that begins with nothing begins in order. So in every state that it
can reach each slot holds a value that its one declaration accepts, unless some initial value has
been refused.

1. `safe_perform`, `safe_run`: one operation and whole programs;
2. `safe_behaviour`: the code of members;
3. `kindsSound_final`: the states that a client can reach.
-/

namespace ObjectGraph.Client

open ObjectGraph.Action

variable {Code : Type} {w : World Code Memory} {P : Prop}

/-! ## 1. Programs -/

theorem safe_hold (vs : List Value) :
    Safe (hold vs) w (∀ v ∈ vs, w.Sound v) fun _ _ => True := by
  refine .of_outcome rfl rfl fun inv sound => ⟨?_, .of_eq rfl fun _ => rfl, trivial⟩
  refine World.invariant_host inv (fun v member => ?_) inv.guards inv.sound
  rcases List.mem_append.1 member with new | old
  · exact sound v new
  · exact inv.known v old

/-- What is entered in the ledger is true. -/
theorem safe_observe : Safe observe w P fun _ _ => True := by
  refine .of_outcome rfl rfl fun inv _ => ⟨?_, .of_eq rfl fun _ => rfl, trivial⟩
  exact World.invariant_host inv inv.known inv.guards
    ⟨inv.sound, World.kindsSound_of_invariant inv⟩

theorem sound_given {response : Response} (sound : SoundResponse w response) :
    ∀ v ∈ response.toOption.getD [], w.Sound v := by
  intro v member
  rcases response with e | vs
  · cases member
  · exact sound vs rfl v member

variable {beh : Behaviour Code Memory}

/-- One operation of a program. -/
theorem safe_perform (safe : SafeBehaviour beh) (op : Operation Code) (w : World Code Memory) :
    Safe (perform beh op) w P fun _ _ => True := by
  unfold perform
  refine .bind (safe_runOperation (P := P) safe op w) fun response w' => ?_
  refine .bind ((safe_hold _).given fun _ before => sound_given before.2.2.2) fun _ w'' => ?_
  exact .bind safe_observe fun _ _ => safe_pure fun _ _ => trivial

/-- A program keeps the invariant, whatever it does, and has a sound result. -/
theorem safe_run (safe : SafeBehaviour beh) (program : Program Code) (w : World Code Memory) :
    Safe (program.run beh) w P SoundResult := by
  -- Induction on the program; what an operation leaves is where the rest begins.
  induction program generalizing w P with
  | done result =>
    refine .getWorld_bind (safe_pure fun inv _ v given_ => ?_)
    rcases result with e | o
    · cases given_
    · cases given_
      exact sound_value inv o
  | look next ih => exact .getWorld_bind (ih w w)
  | perform op next ih => exact .bind (safe_perform safe op w) fun response w' => ih response w'

/-! ## 2. The code of members -/

theorem safe_call (safe : SafeBehaviour beh) (program : Program Code) (arguments : List Value)
    (w : World Code Memory) :
    Safe (program.call beh arguments) w (∀ v ∈ arguments, w.Sound v) SoundResult :=
  .bind (safe_hold arguments) fun _ w' => safe_run safe program w'

theorem safe_noteInitial (code : Code) {initial : Act Code Value}
    (safe : Safe initial w P fun w' v => w'.Sound v) :
    Safe (noteInitial code initial) w P fun w' v => w'.Sound v := by
  refine Safe.bind safe fun v w' => Safe.of_ledger rfl (fun noted => noted.1) ?_
  rintro - inv ⟨-, -, -, sound⟩
  refine ⟨World.invariant_host inv inv.known inv.guards inv.sound, ?grown,
    World.sound_of_extends inv.typed ?grown sound⟩
  exact .of_eq rfl fun _ => rfl

/-- If no refusal is entered, the initial values have been accepted. -/
theorem safe_noting (obedient : Obedient (safety Code) beh) : SafeBehaviour (noting beh) where
  obedient := by
    refine ⟨obedient.getter, obedient.setter, obedient.method, fun code w => ?_⟩
    exact Obeys.given (safe_noteInitial code ((obedient.initial code w).given fun _ _ => trivial))
      fun _ _ _ => trivial
  initial code w noted := noted.2

theorem obedient_call (safe : SafeBehaviour beh) :
    ObedientCalls (safety Code) (Program.call beh) := by
  intro program arguments w
  refine Obeys.imp (safe_call safe program arguments w) ?_ ?_
  · exact fun _ sound accepted v given_ => sound v given_ accepted
  · exact fun _ _ _ _ sound v given_ accepted => sound accepted v given_

/-- Code that is made of programs is safe, however deeply it is nested. -/
theorem safe_behaviour (library : Library Code) (n : Nat) : SafeBehaviour (library.behaviour n) :=
  safe_noting (obedient_behaviour (fun _ _ => .null)
    (fun _ obedient => obedient_call (safe_noting obedient)) n)

/-! ## 3. Reachable states -/

/-- Nothing has been declared or created yet. -/
theorem invariant_start : ({ host := {} } : World Code Memory).Invariant := by
  have typed : ({ host := {} } : World Code Memory).Typed :=
    ⟨⟨⟨nofun, nofun, nofun, nofun⟩, nofun⟩, rfl, nofun⟩
  refine ⟨typed, fun id => ?_, nofun, nofun, trivial⟩
  cases id with
  | entity a => exact World.fits_empty _
  | statics t =>
    refine ⟨nofun, ?_⟩
    rintro _ ⟨⟩
    exact .nil

/-- Let a client do anything from the start on, with code of members that is as deeply nested as it
may be. If the initial values of fields have been accepted, then field kinds are sound, and they
have been after each operation before, also of those that code has performed. -/
theorem kindsSound_final (library : Library Code) (program : Program Code) (n : Nat)
    (accepted : (program.final library n).host.accepted) :
    (program.final library n).host.sound ∧
      (program.final library n).KindsSound (program.final library n).host.known := by
  have safe := safe_run (P := True) (safe_behaviour library n) program { host := {} }
  obtain ⟨ended, -, -⟩ := safe (fun _ => invariant_start) (fun _ => trivial)
  have inv := ended accepted
  exact ⟨inv.sound, World.kindsSound_of_invariant inv⟩

/-- All code gives a name. -/
def naming : Library Unit :=
  let program := .done (.ok (.native (.string "round")))
  ⟨fun _ => program, fun _ => program, fun _ => program, fun _ => program⟩

/-- A class with a field that begins with the result of code. -/
def declareShape : Operation Unit :=
  .declare .reference "Shape" [(.fieldWith "name" .str (), .native .nothing)]

/-- A class derived from it, with a field of the same name and a static field. -/
def declareCircle : Operation Unit :=
  .declare .reference "Circle"
    [(.extends 0, .native .nothing), (.field "name" .int, .native .nothing),
      (.staticField "count" .int .null, .native (.int 1))]

/-- Declares the two classes, creates an instance and writes to the field that it finds first. -/
def drawing : Program Unit :=
  .perform declareShape fun _ => .perform declareCircle fun _ => .perform (.create 1) fun _ =>
    .perform (.setField (.known 0) "name" (.native (.int 5))) fun _ => .done (.ok (.known 0))

/-- The world after the two declarations. -/
def classes : World Unit Memory :=
  ((perform (naming.behaviour 1) declareCircle).outcome
    ((perform (naming.behaviour 1) declareShape).outcome { host := {} }).2).2

/-- The name of the new circle comes from code, and its other field is a default. -/
theorem outcome_create_circle :
    (runOperation (naming.behaviour 1) (.create 1)).outcome classes =
      let named := ((naming.behaviour 1).initial ()).outcome classes
      (.ok [.object 0], (named.2.allocate (.object 1) #[named.1, .int 0]).2) := by
  have declared : 1 < classes.types.size := by decide
  have reference : classes.types.kind 1 = .reference := rfl
  have inits : (classes.types.info 1).inits = [.computed (), .default .int] := rfl
  rw [runOperation, outcome_bind, outcome_getWorld, if_pos declared, outcome_bind,
    outcome_newInstance_reference _ reference, inits]
  simp only [List.mapM_cons, List.mapM_nil, initialValue]
  rfl

theorem final_drawing : drawing.final naming 1 =
    (let named := ((naming.behaviour 1).initial ()).outcome classes
    let created := (named.2.allocate (.object 1) #[named.1, .int 0]).2
    ((perform (naming.behaviour 1) (.setField (.known 0) "name" (.native (.int 5)))).outcome
      (observe.outcome ((hold [.object 0]).outcome created).2).2).2) := by
  have unfolded : drawing.final naming 1 =
      ((perform (naming.behaviour 1) (.setField (.known 0) "name" (.native (.int 5)))).outcome
        ((perform (naming.behaviour 1) (.create 1)).outcome classes).2).2 := rfl
  have performed : (perform (naming.behaviour 1) (.create 1)).outcome classes =
      let ran := (runOperation (naming.behaviour 1) (.create 1)).outcome classes
      (ran.1, (observe.outcome ((hold (ran.1.toOption.getD [])).outcome ran.2).2).2) := rfl
  rw [unfolded, performed, outcome_create_circle]
  rfl

/-- All initial values have been accepted: the name, the default and the static value. -/
theorem accepted_drawing : (drawing.final naming 1).host.accepted := by
  rw [final_drawing]
  show ((True ∧ _) ∧ _) ∧ _
  refine ⟨⟨⟨trivial, ?shapeDefaults, ?shapeStatics⟩, ?circleDefaults, ?circleStatics⟩, ?named⟩
  case shapeDefaults =>
    intro name kind member
    cases List.mem_singleton.1 member
  case shapeStatics =>
    intro name kind v member
    cases List.mem_singleton.1 member
  case circleDefaults =>
    intro name kind member
    rcases List.mem_cons.1 member with new | member
    · cases new
    rcases List.mem_cons.1 member with new | member
    · cases new
      show World.accepts _ .int ((initialValue _ 0 (.default .int)).outcome _).1 = true
      rw [initialValue]
      rfl
    cases List.mem_singleton.1 member
  case circleStatics =>
    intro name kind v member
    rcases List.mem_cons.1 member with new | member
    · cases new
    rcases List.mem_cons.1 member with new | member
    · cases new
    cases List.mem_singleton.1 member
    rfl
  case named =>
    -- Slot 0 of both classes begins with the name, and nothing else does.
    intro t slot kind begins of_kind
    rcases t with _ | _ | t
    · rcases slot with _ | slot
      · cases of_kind
        rfl
      · cases begins
    · rcases slot with _ | _ | slot
      · cases of_kind
        rfl
      · cases begins
      · cases begins
    · cases begins

/-- The later field of the name is found and written; the field of the base class keeps its text. -/
theorem kindsSound_final_drawing :
    (drawing.final naming 1).host.accepted ∧
      ((drawing.final naming 1).host.sound ∧
        (drawing.final naming 1).KindsSound (drawing.final naming 1).host.known) ∧
      (drawing.final naming 1).cells (.entity 0) = #[.str "round", .int 5] := by
  refine ⟨accepted_drawing, kindsSound_final naming drawing 1 accepted_drawing, ?_⟩
  rw [final_drawing]
  rfl

end ObjectGraph.Client
