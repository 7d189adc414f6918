import ObjectGraph.Proofs.Client.Bounds
import ObjectGraph.Proofs.Client.Protection

/-!
# Blocks protect what they borrow

Inside a block a cursor may replace elements of the collection that it has for writing. This is all
that procedures do beyond single commands, so they change nothing that is in use but by a cursor
that is at hand. A block hands its cursor to its body and takes it back in the end, together with
the borrow; code of members runs without the cursors of its callers and can change nothing that is
in use at all.

1. `Kept`, `runs`: the discipline of changing what is in use by a cursor only;
2. `runs_runCommand`, `runs_execute`: commands, those on a cursor included;
3. `Granted`, `runs_openBlock`, `runs_enclose`: blocks;
4. `runs_run`, `protects_call`, `obedient_procedures`: procedures, and the code of members;
5. `protected_final`: the worlds that procedures lead to.
-/

namespace ObjectGraph.Client

open ObjectGraph.Action

variable {Code α : Type} {start w w' : World Code Memory} {beh : Behaviour Code Memory} {P : Prop}

/-! ## 1. The discipline -/

/-- What a guard borrows, and whether it does so for writing. -/
def Guard.access (guard : Guard) : StorageId × Bool := (.entity guard.address, guard.forWriting)

/-- What the guards at hand borrow. -/
def accesses (w : World Code Memory) : List (StorageId × Bool) := w.host.guards.map Guard.access

/-- All storages are in use as before, by the same guards. Those in use keep their lengths, and
their contents too unless a cursor has them for writing. -/
structure Kept (w w' : World Code Memory) : Prop where
  borrows : w.SameBorrows w'
  shapes : ∀ a shape, w.shape? a = some shape → w'.shape? a = some shape
  guards : accesses w' = accesses w
  sizes : ∀ id, w.borrow id ≠ .free → (w'.cells id).size = (w.cells id).size
  cells : ∀ id, w.borrow id ≠ .free → (id, true) ∉ accesses w → w'.cells id = w.cells id

theorem Kept.refl (w : World Code Memory) : Kept w w :=
  ⟨.refl w, fun _ _ here => here, rfl, fun _ _ => rfl, fun _ _ _ => rfl⟩

theorem Kept.trans {w'' : World Code Memory} (first : Kept w w') (second : Kept w' w'') :
    Kept w w'' := by
  refine ⟨first.borrows.trans second.borrows,
    fun a shape here => second.shapes a shape (first.shapes a shape here),
    second.guards.trans first.guards, fun id used => ?_, fun id used apart => ?_⟩
  · exact (second.sizes id (by rwa [first.borrows])).trans (first.sizes id used)
  · rw [second.cells id (by rwa [first.borrows]) (by rwa [first.guards])]
    exact first.cells id used apart

theorem kept_of_spares (spares : w.Spares w') (guards : w'.host.guards = w.host.guards) :
    Kept w w' :=
  ⟨spares.borrows, spares.shapes, by rw [accesses, accesses, guards],
    fun id used => by rw [spares.cells id used], fun id used _ => spares.cells id used⟩

theorem Guarded.exclusive (guarded : Guarded start w) {id : StorageId}
    (open_ : (id, true) ∈ accesses w) : w.borrow id = .exclusive := by
  obtain ⟨guard, at_hand, same⟩ := List.mem_map.1 open_
  cases guard with
  | mk a forWriting cursor =>
    cases same
    exact guarded.writing _ at_hand rfl

theorem Guarded.of_kept (guarded : Guarded start w) (kept : Kept w w') (ledger : w'.host.sound) :
    Guarded start w' := by
  refine ⟨ledger, fun guard at_hand writes => ?_, guarded.calm.mono kept.borrows kept.shapes⟩
  have open_ : guard.access ∈ accesses w' := List.mem_map_of_mem at_hand
  rw [kept.guards, Guard.access, writes] at open_
  rw [kept.borrows]
  exact guarded.exclusive open_

/-- What is in use is changed by cursors only. -/
def runs (start : World Code Memory) : Discipline Code Memory where
  holds := Guarded start
  grows := Kept
  refl := .refl
  trans := .trans

/-- Run in `w`, given `P`, the action changes what is in use by cursors only and has a result with
`Q`. -/
abbrev Runs (start : World Code Memory) (x : Act Code α) (w : World Code Memory) (P : Prop)
    (Q : World Code Memory → α → Prop) : Prop :=
  Obeys (runs start) x w P Q

theorem Runs.of_protects {x : Act Code α} {Q : World Code Memory → α → Prop}
    (protected_ : Protects start x w P Q) :
    Runs start x w P fun after a => Q after a ∧ w.Spares after := by
  intro guarded given_
  obtain ⟨after, ⟨spares, guards⟩, result⟩ := protected_ guarded given_
  exact ⟨after, kept_of_spares spares guards, result, spares⟩

/-- An action of this outcome. -/
theorem runs_of_kept {x : Act Code α} {Q : World Code Memory → α → Prop} {a : α}
    (found : x.outcome w = (a, w')) (ledger : w'.host.sound = w.host.sound)
    (kept : Guarded start w → Kept w w') (h : Guarded start w → P → Q w' a) :
    Runs start x w P Q :=
  .of_outcome found fun guarded given_ =>
    ⟨guarded.of_kept (kept guarded) (by rw [ledger]; exact guarded.ledger), kept guarded,
      h guarded given_⟩

theorem runs_hold (vs : List Value) :
    Runs start (hold vs) w P fun after _ => ∀ id, after.cells id = w.cells id := by
  have held : (hold vs : Act Code Unit).outcome w =
      ((), { w with host := { w.host with known := vs ++ w.host.known } }) := rfl
  exact runs_of_kept held rfl (fun _ => kept_of_spares (World.spares_host ..) rfl) fun _ _ _ => rfl

/-- What is entered in the ledger is true. -/
theorem runs_enter {p : World Code Memory → Prop} (h : Guarded start w → P → p w) :
    Runs start (enter p) w P fun _ _ => True := by
  intro guarded given_
  have entered : Guarded start { w with host := { w.host with sound := w.host.sound ∧ p w } } :=
    guarded.of_spares (World.spares_host ..) rfl ⟨guarded.ledger, h guarded given_⟩
  exact ⟨entered, kept_of_spares (World.spares_host ..) rfl, trivial⟩

/-! ## 2. Commands -/

/-- What is known after a command: what it answers, and that of the storages in use it has written
none but by a cursor. -/
structure Performed (beh : Behaviour Code Memory) (w : World Code Memory) (command : Command Code)
    (after : World Code Memory) (response : Response) : Prop where
  honours : Honours beh w command response
  cells : ∀ id, w.borrow id ≠ .free → ¬ command.Replaces w id → after.cells id = w.cells id

theorem honours_of_guard (op : Operation Code) (direct : (Command.operate op).IsDirect)
    (none_ : (Command.operate op).access? w = none) {response : Response}
    (quiet : ∀ failure, response = .error failure → ¬ failure.IsBusy) :
    Honours beh w (.operate op) response := by
  refine honours_of_direct direct ⟨?_, fun failure failed busy => ?_⟩
  · rw [none_]
    rintro _ _ ⟨⟩
  · exact absurd busy (quiet failure failed)

/-- A command on a cursor. There is nothing to it if the cursor is not at hand. -/
theorem runs_onGuard (op : Operation Code) (i : Nat)
    {body : Guard → Array Value → Act Code Response}
    (direct : (Command.operate op).IsDirect) (none_ : (Command.operate op).access? w = none)
    (h : ∀ guard, w.host.guards[i]? = some guard →
      Runs start (body guard (w.cells (.entity guard.address))) w P
        (Performed beh w (.operate op))) :
    Runs start (onGuard i body) w P (Performed beh w (.operate op)) := by
  refine obeys_onGuard ⟨honours_of_guard op direct none_ ?_, fun _ _ _ => rfl⟩ h
  rintro _ ⟨⟩
  exact id

theorem map_access_set {guards : List Guard} {i : Nat} {guard moved : Guard}
    (here : guards[i]? = some guard) (same : moved.access = guard.access) :
    (guards.set i moved).map Guard.access = guards.map Guard.access := by
  obtain ⟨inside, rfl⟩ := List.getElem?_eq_some_iff.1 here
  rw [List.map_set, same, ← List.getElem_map Guard.access (h := by simpa using inside),
    List.set_getElem_self]

/-- Moving a cursor changes the cursor only. -/
theorem runs_advance (i : Nat) :
    Runs start (runCommand beh (.operate (.advance i))) w P
      (Performed beh w (.operate (.advance i))) := by
  refine runs_onGuard (.advance i) i trivial rfl fun guard here => ?_
  refine runs_of_kept rfl rfl (fun _ => ⟨fun _ => rfl, fun _ _ here => here, ?_, fun _ _ => rfl,
    fun _ _ _ => rfl⟩) fun _ _ => ⟨honours_of_guard (.advance i) trivial rfl ?_,
    fun _ _ _ => rfl⟩
  · exact map_access_set here rfl
  · rintro _ ⟨⟩

/-- Other contents of the same length for a storage that a cursor has for writing. -/
theorem kept_modifyCells (guarded : Guarded start w) {a : Address} {cells : Array Value}
    (open_ : (.entity a, true) ∈ accesses w) (size : cells.size = (w.cells (.entity a)).size) :
    Kept w (w.modifyCells (.entity a) fun _ => cells) := by
  have used : w.borrow (.entity a) ≠ .free := by
    rw [guarded.exclusive open_]
    exact nofun
  refine ⟨fun id => World.borrow_modifyCells .., fun b shape here => ?_, ?_, fun id _ => ?_,
    fun id _ apart => ?_⟩
  · exact (World.shape?_update w _ _ b).trans here
  · rw [accesses, World.host_modifyCells, accesses]
  · by_cases here : .entity a = id
    · subst here
      rw [World.cells_modifyCells_self _ (World.inUse_of_used used), size]
    · rw [World.cells_modifyCells_of_ne w _ here]
  · refine World.cells_modifyCells_of_ne w _ fun here => apart ?_
    rwa [← here]

/-- Replacing the element that a cursor is on changes the storage of the cursor only. -/
theorem runs_replace (i : Nat) (value : Operand) :
    Runs start (runCommand beh (.operate (.replace i value))) w P
      (Performed beh w (.operate (.replace i value))) := by
  refine runs_onGuard (.replace i value) i trivial rfl fun guard here => ?_
  rcases guard with ⟨a, forWriting, cursor⟩
  cases forWriting with
  | false =>
    refine obeys_pure fun _ _ => ⟨honours_of_guard (.replace i value) trivial rfl ?_,
      fun _ _ _ => rfl⟩
    rintro _ ⟨⟩
    exact id
  | true =>
    have open_ : (.entity a, true) ∈ accesses w :=
      List.mem_map_of_mem (f := Guard.access) (List.mem_of_getElem? here)
    refine runs_of_kept rfl ?_ (fun guarded => kept_modifyCells guarded open_ (size_replace ..))
      fun _ _ => ⟨honours_of_guard (.replace i value) trivial rfl ?_, fun id _ still => ?_⟩
    · exact congrArg Memory.sound (World.host_modifyCells ..)
    · rintro _ ⟨⟩
    · refine World.cells_modifyCells_of_ne w _ fun same => still ?_
      exact ⟨i, value, a, cursor, rfl, here, same.symm⟩

section

variable (obedient : Obedient (protects start) beh)
include obedient

/-- Every command changes what is in use by a cursor only, and says what it has to say. -/
theorem runs_runCommand (command : Command Code) (plain : command.IsPlain)
    (w : World Code Memory) :
    Runs start (runCommand beh command) w P (Performed beh w command) := by
  by_cases cursor : command.UsesCursor
  case neg =>
    refine (Runs.of_protects (P := P) (protects_runCommand obedient command plain cursor w)).imp
      (fun _ given_ => given_) fun _ _ _ _ ⟨honours, spares⟩ => ⟨honours, fun id used _ => ?_⟩
    exact spares.cells id used
  rcases command with op | _ | _ | _
  case operate =>
    cases op
    case advance i => exact runs_advance i
    case replace i value => exact runs_replace i value
    all_goals cases cursor
  all_goals cases cursor

omit obedient in
theorem tellsWriting (w : World Code Memory) : w.TellsWriting := by
  refine ⟨fun _ _ locked shallow => World.exportAt_of_isLocked locked shallow,
    fun _ _ refused => World.exists_locked_of_exportAt refused, fun sort a => ?_⟩
  rw [World.collectionLayout]
  cases w.borrow (.entity a) with
  | shared n => simp [Borrow.share?, String.append_assoc]
  | exclusive => rfl

omit obedient in
theorem Command.Replaces.exclusive {command : Command Code} {id : StorageId}
    (replaces : command.Replaces w id) (guarded : Guarded start w) : w.borrow id = .exclusive := by
  obtain ⟨i, value, a, cursor, -, here, rfl⟩ := replaces
  exact guarded.writing _ (List.mem_of_getElem? here) rfl

omit obedient in
theorem Performed.protected {command : Command Code} {response : Response}
    (performed : Performed beh w command w' response) (guarded : Guarded start w)
    (kept : Kept w w') : Protected start beh w command response w' where
  calm := guarded.calm
  told := tellsWriting w
  borrows := kept.borrows
  shared id n read := by
    refine performed.cells id (by rw [read]; exact nofun) fun replaces => ?_
    rw [replaces.exclusive guarded] at read
    cases read
  exclusive id written := by
    have used : w.borrow id ≠ .free := by
      rw [written]
      exact nofun
    exact ⟨kept.sizes id used, performed.cells id used⟩
  refused := performed.honours.refused
  busy := performed.honours.busy
  fields := performed.honours.fields

/-- One command of a procedure. What is entered of it in the ledger is true. -/
theorem runs_execute (command : Command Code) (plain : command.IsPlain) (w : World Code Memory) :
    Runs start (execute start beh command) w P fun _ _ => True := by
  unfold execute
  refine .getWorld_bind ?_
  refine .bind (runs_runCommand (P := P) obedient command plain w) fun response answered => ?_
  refine .bind (runs_hold _) fun _ held => ?_
  refine .bind (runs_enter ?_) fun _ _ => obeys_pure fun _ _ => trivial
  rintro - ⟨-, ⟨guarded, -, kept, performed⟩, kept', same⟩
  have performed' : Performed beh w command held response :=
    ⟨performed.honours, fun id used still => (same id).trans (performed.cells id used still)⟩
  exact performed'.protected guarded (kept.trans kept')

end

/-! ## 3. Blocks -/

/-- A storage that was in the state `b` has been given for reading or writing, and is then in the
state `c`. -/
structure Granted (forWriting : Bool) (b c : Borrow) : Prop where
  released : c.release = b
  used : c ≠ .free
  unblocked : ¬ b.Blocks forWriting
  exclusive : c = .exclusive ↔ forWriting = true

theorem granted_of_share? {b c : Borrow} (shared : b.share? = some c) : Granted false b c := by
  cases b with
  | shared n =>
    cases shared
    exact ⟨rfl, nofun, nofun, nofun, nofun⟩
  | exclusive => cases shared

theorem granted_of_claim? {b c : Borrow} (claimed : b.claim? = some c) : Granted true b c := by
  obtain ⟨rfl, rfl⟩ := claim?_eq_some_iff.1 claimed
  exact ⟨rfl, nofun, Borrow.not_blocks_free true, fun _ => rfl, fun _ => rfl⟩

theorem Granted.ne_exclusive {forWriting : Bool} {b c : Borrow} (granted : Granted forWriting b c) :
    b ≠ .exclusive := by
  rintro rfl
  refine granted.unblocked ?_
  cases forWriting
  · rfl
  · exact nofun

/-- The world inside a block. -/
def opened (w : World Code Memory) (guard : Guard) (c : Borrow) : World Code Memory :=
  let lent := w.setBorrow (.entity guard.address) c
  { lent with host := { lent.host with guards := lent.host.guards ++ [guard] } }

/-- The world after a block, if the body has left `w'` and there were `count` guards before. -/
def closed (w' : World Code Memory) (guard : Guard) (count : Nat) : World Code Memory :=
  { w' with host := { w'.host with guards := w'.host.guards.take count } }.setBorrow
    (.entity guard.address) (w'.borrow (.entity guard.address)).release

/-- A borrow is refused, or the body is run inside and the borrow ends with it. -/
theorem borrowed_cases (a : Address) (forWriting : Bool) (body : Act Code α)
    (w : World Code Memory) :
    ((w.borrow (.entity a)).Blocks forWriting ∧
      (borrowed a forWriting body).outcome w = (.error .busy, w)) ∨
    ∃ c, Granted forWriting (w.borrow (.entity a)) c ∧
      (borrowed a forWriting body).outcome w =
        (body.outcome (opened w ⟨a, forWriting, .start⟩ c)).map .ok
          fun inside => closed inside ⟨a, forWriting, .start⟩ w.host.guards.length := by
  cases forWriting with
  | false =>
    rw [borrowed, if_neg Bool.false_ne_true, outcome, run_withShared]
    rcases shared : (w.borrow (.entity a)).share? with _ | c
    · exact .inl ⟨share?_eq_none_iff.1 shared, rfl⟩
    · exact .inr ⟨c, granted_of_share? shared, rfl⟩
  | true =>
    rw [borrowed, if_pos rfl, outcome, run_withExclusive]
    rcases claimed : (w.borrow (.entity a)).claim? with _ | c
    · refine .inl ⟨fun free => ?_, rfl⟩
      rw [free] at claimed
      cases claimed
    · exact .inr ⟨c, granted_of_claim? claimed, rfl⟩

/-- Only what exists is borrowed, and objects are not borrowed for writing. -/
theorem shape?_of_opens? {v : Value} {forWriting : Bool} {a : Address}
    (opens : w.opens? v forWriting = some a) :
    ∃ shape, w.shape? a = some shape ∧ (forWriting = true → ∀ t, shape ≠ .object t) := by
  unfold World.opens? at opens
  split at opens
  · split at opens
    · next t here =>
      split at opens
      · cases opens
      next reading =>
      cases opens
      exact ⟨.object t, here, fun writes => absurd writes reading⟩
    · cases opens
  · split at opens
    · next here =>
      cases opens
      exact ⟨.array, here, fun _ => nofun⟩
    · cases opens
  · split at opens
    · next here =>
      cases opens
      exact ⟨.list, here, fun _ => nofun⟩
    · cases opens
  · cases opens

section

variable {guard : Guard} {c : Borrow} {shape : Shape}

theorem borrow_opened_self (here : w.shape? guard.address = some shape) :
    (opened w guard c).borrow (.entity guard.address) = c :=
  World.borrow_setBorrow_self c (World.inUse_of_shape? here)

theorem borrow_opened_of_ne {id : StorageId} (different : .entity guard.address ≠ id) :
    (opened w guard c).borrow id = w.borrow id :=
  World.borrow_setBorrow_of_ne w c different

theorem cells_opened (id : StorageId) : (opened w guard c).cells id = w.cells id :=
  World.cells_setBorrow w _ id c

theorem accesses_opened : accesses (opened w guard c) = accesses w ++ [guard.access] :=
  List.map_append

/-- A body begins with all in order. -/
theorem guarded_opened (guarded : Guarded start w)
    (granted : Granted guard.forWriting (w.borrow (.entity guard.address)) c)
    (here : w.shape? guard.address = some shape)
    (noObject : guard.forWriting = true → ∀ t, shape ≠ .object t) :
    Guarded start (opened w guard c) := by
  refine ⟨guarded.ledger, fun other at_hand writes => ?_, fun a t object used => ?_, fun t => ?_⟩
  · rcases List.mem_append.1 at_hand with old | new
    · have before := guarded.writing other old writes
      rw [borrow_opened_of_ne, before]
      intro same
      rw [← same] at before
      exact granted.ne_exclusive before
    · rw [List.mem_singleton.1 new] at writes ⊢
      rw [borrow_opened_self here]
      exact granted.exclusive.2 writes
  · have object' : w.shape? a = some (.object t) := (World.shape?_update ..).symm.trans object
    by_cases same : guard.address = a
    · subst same
      rw [borrow_opened_self here] at used
      rw [here] at object'
      cases object'
      exact absurd rfl (noObject (granted.exclusive.1 used) t)
    · rw [borrow_opened_of_ne fun h => same (by cases h; rfl)] at used
      exact guarded.calm.objects a t object' used
  · have different : StorageId.entity guard.address ≠ .statics t := nofun
    exact (borrow_opened_of_ne different).trans (guarded.calm.statics t)

/-- What is in use before a block is in use inside. -/
theorem used_opened (granted : Granted guard.forWriting (w.borrow (.entity guard.address)) c)
    (here : w.shape? guard.address = some shape) {id : StorageId} (used : w.borrow id ≠ .free) :
    (opened w guard c).borrow id ≠ .free := by
  by_cases same : .entity guard.address = id
  · rw [← same, borrow_opened_self here]
    exact granted.used
  · rwa [borrow_opened_of_ne same]

/-- A cursor on what is in use already does not have it for writing. -/
theorem notMem_accesses_opened
    (granted : Granted guard.forWriting (w.borrow (.entity guard.address)) c) {id : StorageId}
    (used : w.borrow id ≠ .free) (apart : (id, true) ∉ accesses w) :
    (id, true) ∉ accesses (opened w guard c) := by
  rw [accesses_opened]
  intro among
  rcases List.mem_append.1 among with old | new
  · exact apart old
  · have same := List.mem_singleton.1 new
    rw [Guard.access, Prod.mk.injEq] at same
    obtain ⟨rfl, writes⟩ := same
    refine granted.unblocked ?_
    rwa [← writes, Borrow.blocks_true]

theorem cells_closed (count : Nat) (id : StorageId) :
    (closed w' guard count).cells id = w'.cells id :=
  World.cells_setBorrow ..

/-- The world after a block differs as what the body has left does, but the borrow is over. -/
theorem kept_closed (granted : Granted guard.forWriting (w.borrow (.entity guard.address)) c)
    (here : w.shape? guard.address = some shape) (kept : Kept (opened w guard c) w') :
    Kept w (closed w' guard w.host.guards.length) := by
  have shapes (a : Address) (shape : Shape) (existed : w.shape? a = some shape) :
      w'.shape? a = some shape := kept.shapes a shape ((World.shape?_update ..).trans existed)
  have still : w'.inUse (.entity guard.address) := World.inUse_of_shape? (shapes _ _ here)
  refine ⟨fun id => ?_, fun a shape existed => ?_, ?_, fun id used => ?_, fun id used apart => ?_⟩
  · by_cases same : .entity guard.address = id
    · subst same
      have lent : w'.borrow (.entity guard.address) = c :=
        (kept.borrows _).trans (borrow_opened_self here)
      rw [← granted.released, ← lent]
      exact World.borrow_setBorrow_self _ still
    · rw [closed, World.borrow_setBorrow_of_ne _ _ same]
      exact (kept.borrows id).trans (borrow_opened_of_ne same)
  · exact (World.shape?_update ..).trans (shapes a shape existed)
  · have taken : accesses (closed w' guard w.host.guards.length) =
        (accesses w').take w.host.guards.length := List.map_take
    rw [taken, kept.guards, accesses_opened]
    exact List.take_left' (List.length_map ..)
  · rw [cells_closed, kept.sizes id (used_opened granted here used), cells_opened]
  · rw [cells_closed, kept.cells id (used_opened granted here used)
      (notMem_accesses_opened granted used apart), cells_opened]

end

/-- What comes of a block whose storage is at `a`. -/
structure Lent (w : World Code Memory) (a : Address) (forWriting : Bool) (response : Response)
    (after : World Code Memory) : Prop where
  refused : (w.borrow (.entity a)).Blocks forWriting ↔ response = .error (.storage .busy)
  size : (after.cells (.entity a)).size = (w.cells (.entity a)).size
  contents : forWriting = false → after.cells (.entity a) = w.cells (.entity a)

theorem respondBlock_ok (result : Except WriteError Value) :
    respondBlock (.ok result) ≠ .error (.storage .busy) := by
  cases result <;> exact nofun

/-- The storage is given to the body, which leaves its length alone, and for reading its contents.
-/
theorem lent_of_kept {a : Address} {forWriting : Bool} {c : Borrow} {shape : Shape}
    (guarded : Guarded start w) (granted : Granted forWriting (w.borrow (.entity a)) c)
    (here : w.shape? a = some shape) (kept : Kept (opened w ⟨a, forWriting, .start⟩ c) w')
    (result : Except WriteError Value) (count : Nat) :
    Lent w a forWriting (respondBlock (.ok result)) (closed w' ⟨a, forWriting, .start⟩ count) := by
  have used : (opened w ⟨a, forWriting, .start⟩ c).borrow (.entity a) ≠ .free := by
    rw [borrow_opened_self here]
    exact granted.used
  refine ⟨iff_of_false granted.unblocked (respondBlock_ok result), ?_, fun reading => ?_⟩
  · rw [cells_closed, kept.sizes _ used, cells_opened]
  · rw [cells_closed, kept.cells _ used, cells_opened]
    rw [accesses_opened]
    intro among
    rcases List.mem_append.1 among with old | new
    · exact granted.ne_exclusive (guarded.exclusive old)
    · subst reading
      cases List.mem_singleton.1 new

section

variable {on : Operand} {forWriting : Bool} {body : Act Code (Except WriteError Value)}
  (runs_body : ∀ w, Runs start body w True fun _ _ => True)
include runs_body

theorem runs_openBlock (w : World Code Memory) :
    Runs start (openBlock on forWriting body) w P fun after response =>
      ∀ a, w.opens? (on.value w.host) forWriting = some a →
        Lent w a forWriting response after := by
  unfold openBlock
  refine .getWorld_bind ?_
  rcases opens : w.opens? (on.value w.host) forWriting with _ | a
  · refine obeys_pure fun _ _ => ?_
    rintro _ ⟨⟩
  obtain ⟨shape, here, noObject⟩ := shape?_of_opens? opens
  rcases borrowed_cases a forWriting body w with ⟨blocked, refused⟩ | ⟨c, granted, ran⟩
  · have answer : (do return respondBlock (← borrowed a forWriting body) :
        Act Code Response).outcome w = (.error (.storage .busy), w) := by
      rw [outcome_bind, refused]
      rfl
    refine .of_result answer fun _ _ => ?_
    rintro _ ⟨⟩
    exact ⟨iff_of_true blocked rfl, rfl, fun _ => rfl⟩
  · rcases inside : body.outcome (opened w ⟨a, forWriting, .start⟩ c) with ⟨result, w'⟩
    have answer : (do return respondBlock (← borrowed a forWriting body) :
        Act Code Response).outcome w =
        (respondBlock (.ok result), closed w' ⟨a, forWriting, .start⟩ w.host.guards.length) := by
      rw [outcome_bind, ran, inside]
      rfl
    refine .of_outcome answer fun guarded _ => ?_
    have begun : Guarded start (opened w ⟨a, forWriting, .start⟩ c) :=
      guarded_opened guarded granted here noObject
    obtain ⟨after, kept, -⟩ := runs_body _ begun trivial
    rw [inside] at after kept
    have kept' := kept_closed granted here kept
    refine ⟨guarded.of_kept kept' after.ledger, kept', ?_⟩
    rintro _ ⟨⟩
    exact lent_of_kept guarded granted here kept result _

/-- One block of a procedure. What is entered of it in the ledger is true. -/
theorem runs_enclose (w : World Code Memory) :
    Runs start (enclose start on forWriting body) w P fun _ _ => True := by
  unfold enclose
  refine .getWorld_bind ?_
  refine .bind (runs_openBlock (P := P) runs_body w) fun response answered => ?_
  refine .bind (runs_hold _) fun _ held => ?_
  refine .bind (runs_enter ?_) fun _ _ => obeys_pure fun _ _ => trivial
  rintro - ⟨-, ⟨guarded, -, kept, lent⟩, kept', same⟩
  refine ⟨guarded.calm, (kept.trans kept').borrows, fun a opens => (lent a opens).refused,
    fun a opens => ?_⟩
  rw [same]
  exact ⟨(lent a opens).size, (lent a opens).contents⟩

end

/-! ## 4. Procedures -/

/-- Without cursors at hand nothing that is in use is changed. -/
theorem protects_apart {body : Act Code α}
    (runs_body : ∀ w, Runs start body w True fun _ _ => True) (w : World Code Memory) :
    Protects start (apart body) w P fun _ _ => True := by
  intro guarded _
  have begun : Guarded start { w with host := { w.host with guards := [] } } :=
    ⟨guarded.ledger, nofun, guarded.calm.mono (.refl w) fun _ _ here => here⟩
  obtain ⟨after, kept, -⟩ := runs_body _ begun trivial
  have spares : w.Spares ((apart body).outcome w).2 :=
    ⟨kept.borrows, fun id used => kept.cells id used List.not_mem_nil, kept.shapes⟩
  exact ⟨guarded.of_spares spares rfl after.ledger, ⟨spares, rfl⟩, trivial⟩

section

variable (obedient : Obedient (protects start) beh)
include obedient

/-- A procedure changes what is in use by cursors only, whatever it does. -/
theorem runs_run (procedure : Procedure Code) (w : World Code Memory) :
    Runs start (procedure.run start beh) w P fun _ _ => True := by
  -- Induction on the procedure; what a command or a block leaves is where the rest begins.
  induction procedure generalizing w P with
  | done result => exact .getWorld_bind (obeys_pure fun _ _ => trivial)
  | look next ih => exact .getWorld_bind (ih w.withoutLedger w)
  | perform command plain next ih =>
    exact .bind (runs_execute obedient command plain w) fun response w' => ih response w'
  | block on forWriting body next body_ih ih =>
    exact .bind (runs_enclose body_ih w) fun response w' => ih response w'

theorem protects_call (procedure : Procedure Code) (arguments : List Value)
    (w : World Code Memory) :
    Protects start (procedure.call start beh arguments) w P fun _ _ => True :=
  protects_apart (fun _ => .bind (runs_hold arguments)
    fun _ w' => runs_run obedient procedure w') w

end

/-- Code that is made of procedures obeys, however deeply it is nested. -/
theorem obedient_procedures (procedures : Procedures Code) (start : World Code Memory) (n : Nat) :
    Obedient (protects start) (procedures.behaviour start n) := by
  refine obedient_behaviour (fun _ => trivial) (fun beh obedient procedure arguments w => ?_) n
  exact (protects_call obedient procedure arguments w).imp (fun _ given_ => given_)
    fun _ _ _ _ _ _ _ => trivial

/-! ## 5. The worlds that procedures lead to -/

/-- Let a procedure begin in any world, with any storages in use for reading or writing, and let it
borrow more storages in blocks, nested in any way, and do anything inside, with code of members that
does the same and is as deeply nested as it may be. The ledger is true in the end: so what is
entered after a command or a block has been true each time, also in code. All storages are then in
use as they were at first, and those in use hold what they held. -/
theorem protected_final (procedures : Procedures Code) (procedure : Procedure Code) (n : Nat)
    (w : World Code Memory) :
    let final := procedure.final procedures n w
    final.host.sound ∧ w.Spares final := by
  have begun : Guarded (fresh w) (fresh w) :=
    ⟨trivial, nofun, fun _ _ _ used => used, fun _ => rfl⟩
  obtain ⟨after, kept, -⟩ :=
    runs_run (P := True) (obedient_procedures procedures (fresh w) n) procedure (fresh w) begun
      trivial
  exact ⟨after.ledger, kept.borrows, fun id used => kept.cells id used List.not_mem_nil,
    kept.shapes⟩

/-- A list with one element, whose handle is known. -/
def oneList : World Empty Memory where
  entities := #[{ shape := .list, storage := { cells := #[.int 1] } }]
  host := { known := [.list 0] }

/-- A cursor replaces an element of the list that it has for writing; appending to it is in vain. -/
def rewriting : Procedure Empty :=
  .block (.known 0) true
    (.perform (.operate (.advance 0)) trivial fun _ =>
      .perform (.operate (.push (.known 0) (.native (.bool true)))) trivial fun _ =>
      .perform (.operate (.replace 0 (.native (.bool false)))) trivial fun _ =>
      .done (.ok (.known 0)))
    fun _ => .done (.ok (.known 0))

example : (rewriting.final ⟨nofun, nofun, nofun, nofun⟩ 0 oneList).entities =
    #[{ shape := .list, storage := { cells := #[.bool false] } }] := rfl

end ObjectGraph.Client
