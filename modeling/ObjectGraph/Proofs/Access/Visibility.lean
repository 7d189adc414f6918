import ObjectGraph.Proofs.Access.Composition
import ObjectGraph.Proofs.Access.DeferredWrite

/-!
# What reading sees of a write

A path that names no code is read by visiting places, one for each token. Writing along such a path
overwrites the place of its last token. Handles may form cycles and several of them may lead to one
storage, so another path can visit that place too, and a path can visit its own target on the way.

1. `readAt_of_cell`, `Overwritten.readAt_eq`: one step after a write;
2. `World.visits`: the places that a path visits;
3. `Overwritten.walk_eq`, `Overwritten.walk_last`: a whole path after a write;
4. `SetsAt`, `setsAt_of_set`: the write that setting along a path comes down to;
5. `getValue_after_set`: all paths after a write along one of them.
-/

namespace ObjectGraph

open ObjectGraph.Action PathAccess

variable {Code Host : Type}

/-! ## 1. One step -/

namespace World

theorem slotAt_of_read? {w : World Code Host} {id : StorageId} {slot : Nat} {v : Value}
    (held : w.read? ⟨id, slot⟩ = some v) (unused : w.borrow id ≠ .exclusive) :
    w.slotAt id slot = .ok v := by
  have cell : (w.cells id)[slot]? = some v := held
  simp [slotAt, slotOf, unused, cell, Except.mapError]

theorem indexAt_of_read? {w : World Code Host} {a : Address} {index : Nat} {v : Value}
    (held : w.read? ⟨.entity a, index⟩ = some v) (unused : w.borrow (.entity a) ≠ .exclusive) :
    w.indexAt a index = .ok v := by
  have cell : (w.cells (.entity a))[index]? = some v := held
  simp [indexAt, elementOf, unused, cell, Except.mapError]

theorem fieldAt_of_read? {w : World Code Host} {container : Value} {owner : TypeId}
    {isStatic : Bool} {slot : Nat} {l : Location} {v : Value}
    (here : fieldPlace container owner isStatic slot = .cell l) (held : w.read? l = some v)
    (unused : w.borrow l.storage ≠ .exclusive) :
    w.fieldAt container owner isStatic slot = .ok v := by
  unfold fieldPlace at here
  unfold fieldAt
  cases isStatic with
  | true =>
    cases here
    exact slotAt_of_read? held unused
  | false =>
    cases container with
    | object a =>
      cases here
      exact slotAt_of_read? held unused
    | _ => cases here

/-- Where the place of a token is a location that holds a value, reading the token gives it. -/
theorem readAt_of_cell {w : World Code Host} {container : Value} {token : Token} {l : Location}
    {v : Value} (here : w.place container token = .cell l) (held : w.read? l = some v)
    (unused : w.borrow l.storage ≠ .exclusive) : w.readAt container token = .ok v := by
  cases token with
  | element index =>
    rcases collection : container.collection? with _ | a
    · simp [place, collection] at here
    · rw [readAt_of_collection collection]
      obtain rfl : ⟨.entity a, index.toNat⟩ = l := by simpa [place, collection] using here
      exact indexAt_of_read? held unused
  | member name =>
    rcases found : w.resolveOn container name with fault | ⟨owner, member⟩
    · simp [place, found] at here
    rcases content : member.content with ⟨slot, kind⟩ | _ | _
    · rw [place_of_field found content] at here
      rw [readAt_of_field found content]
      exact fieldAt_of_read? here held unused
    · simp [place, found, content] at here
    · simp [place, found, content] at here

namespace Overwritten

variable {w w' : World Code Host} {l : Location} {v : Value} (changed : w.Overwritten l v w')
include changed

theorem typeOf?_eq (container : Value) : w'.typeOf? container = w.typeOf? container := by
  cases container with
  | object a => rw [typeOf?_object, typeOf?_object, changed.shapes a]
  | _ => rfl

theorem resolveOn_eq (container : Value) (name : String) :
    w'.resolveOn container name = w.resolveOn container name := by
  simp only [resolveOn, typeName, changed.typeOf?_eq, changed.types]

theorem place_eq (container : Value) (token : Token) :
    w'.place container token = w.place container token := by
  cases token with
  | element index => rfl
  | member name => simp only [place, changed.resolveOn_eq]

theorem slotAt_eq {id : StorageId} {slot : Nat} (apart : Place.cell ⟨id, slot⟩ ≠ .cell l) :
    w'.slotAt id slot = w.slotAt id slot := by
  have cell : (w'.cells id)[slot]? = (w.cells id)[slot]? :=
    changed.others ⟨id, slot⟩ fun same => apart (by rw [same])
  simp only [slotAt, slotOf, changed.borrows, changed.sizes, cell]

theorem indexAt_eq {a : Address} {index : Nat} (apart : Place.cell ⟨.entity a, index⟩ ≠ .cell l) :
    w'.indexAt a index = w.indexAt a index := by
  have cell : (w'.cells (.entity a))[index]? = (w.cells (.entity a))[index]? :=
    changed.others ⟨.entity a, index⟩ fun same => apart (by rw [same])
  simp only [indexAt, elementOf, changed.borrows, changed.sizes, cell]

theorem fieldAt_eq {container : Value} {owner : TypeId} {isStatic : Bool} {slot : Nat}
    (apart : fieldPlace container owner isStatic slot ≠ .cell l) :
    w'.fieldAt container owner isStatic slot = w.fieldAt container owner isStatic slot := by
  unfold fieldAt
  unfold fieldPlace at apart
  cases isStatic with
  | true => exact changed.slotAt_eq apart
  | false =>
    cases container with
    | object a => exact changed.slotAt_eq apart
    | _ => rfl

/-- A step to any other place than the one that was overwritten is what it was before. -/
theorem readAt_eq {container : Value} {token : Token}
    (apart : w.place container token ≠ .cell l) :
    w'.readAt container token = w.readAt container token := by
  cases token with
  | element index =>
    rcases collection : container.collection? with _ | a
    · simp only [readAt, collection]
    · simp only [place, collection] at apart
      rw [readAt_of_collection collection, readAt_of_collection collection]
      exact changed.indexAt_eq apart
  | member name =>
    have found' := changed.resolveOn_eq container name
    rcases found : w.resolveOn container name with fault | ⟨owner, member⟩
    · simp only [readAt, found', found]
    rw [found] at found'
    rcases content : member.content with ⟨slot, kind⟩ | _ | _
    · rw [place_of_field found content] at apart
      rw [readAt_of_field found content, readAt_of_field found' content]
      exact changed.fieldAt_eq apart
    · simp only [readAt, found', found, content]
    · simp only [readAt, found', found, content]

end Overwritten

/-! ## 2. The places on a path -/

/-- The places that are visited when some tokens are read one after the other, up to the first one
that cannot be read. -/
def visits (w : World Code Host) : Value → List OffsetToken → List Place
  | _, [] => []
  | container, token :: tokens =>
    w.place container token.token ::
      match w.readAt container token.token with
      | .ok reached => w.visits reached tokens
      | .error _ => []

theorem visits_prefix (w : World Code Host) (container : Value) (tokens later : List OffsetToken) :
    w.visits container tokens <+: w.visits container (tokens ++ later) := by
  induction tokens generalizing container with
  | nil => exact List.nil_prefix
  | cons token tokens ih =>
    simp only [List.cons_append, visits, List.prefix_cons_inj]
    rcases w.readAt container token.token with fault | reached
    · exact List.nil_prefix
    · exact ih reached

end World

theorem outcome_step_plain (beh : Behaviour Code Host) (options : AccessOptions)
    {w : World Code Host} {container : Value} {token : OffsetToken}
    (plain : w.place container token.token ≠ .code) :
    (step beh options container token).outcome w =
      ((w.readAt container token.token).mapError (.atToken token), w) := by
  rw [step, outcome_bind, outcome_readStep beh options plain]
  rcases w.readAt container token.token with fault | v <;> rfl

/-- Reading some tokens that name no code leaves the world alone. If it arrives at a value, further
tokens are read from there. -/
theorem walk_plain (beh : Behaviour Code Host) (options : AccessOptions) {w : World Code Host}
    {container : Value} {tokens : List OffsetToken} (plain : .code ∉ w.visits container tokens) :
    ∃ result, (walk beh options none container tokens).outcome w = (result, w) ∧
      ∀ reached, result = .ok reached → ∀ later,
        w.visits container (tokens ++ later) =
          w.visits container tokens ++ w.visits reached later := by
  induction tokens generalizing container with
  | nil =>
    refine ⟨.ok container, rfl, ?_⟩
    rintro _ ⟨⟩ later
    rfl
  | cons token tokens ih =>
    rw [World.visits, List.mem_cons, not_or] at plain
    obtain ⟨here, behind⟩ := plain
    rw [walk, outcome_bind, outcome_step_plain beh options (Ne.symm here)]
    simp only [List.cons_append, World.visits]
    rcases found : w.readAt container token.token with fault | next
    · exact ⟨.error (.atToken token fault), rfl, by rintro _ ⟨⟩⟩
    · rw [found] at behind
      obtain ⟨result, walked, onwards⟩ := ih behind
      exact ⟨result, walked, fun reached arrived later =>
        congrArg _ (onwards reached arrived later)⟩

/-! ## 3. Paths after a write -/

namespace World.Overwritten

variable {w w' : World Code Host} {l : Location} {v : Value} (changed : w.Overwritten l v w')
include changed

/-- Reading some tokens that never visit the overwritten location gives what it gave before. -/
theorem walk_eq (beh : Behaviour Code Host) (options : AccessOptions)
    (malformed : Option ParseError) {container : Value} {tokens : List OffsetToken}
    (plain : .code ∉ w.visits container tokens) (apart : .cell l ∉ w.visits container tokens) :
    ∃ result, (walk beh options malformed container tokens).outcome w = (result, w) ∧
      (walk beh options malformed container tokens).outcome w' = (result, w') := by
  induction tokens generalizing container with
  | nil => cases malformed <;> exact ⟨_, rfl, rfl⟩
  | cons token tokens ih =>
    rw [visits, List.mem_cons, not_or] at plain apart
    have plain' : w'.place container token.token ≠ .code := by
      rw [changed.place_eq]
      exact Ne.symm plain.1
    rw [walk, outcome_bind, outcome_bind, outcome_step_plain beh options (Ne.symm plain.1),
      outcome_step_plain beh options plain', changed.readAt_eq (Ne.symm apart.1)]
    rcases found : w.readAt container token.token with fault | reached
    · exact ⟨.error (.atToken token fault), rfl, rfl⟩
    · rw [found] at plain apart
      exact ih plain.2 apart.2

/-- Reading some tokens of which only the last visits the overwritten location gives the value that
was written. -/
theorem walk_last (beh : Behaviour Code Host) (options : AccessOptions) {container : Value}
    {tokens : List OffsetToken} {front : List Place}
    (visited : w.visits container tokens = front ++ [.cell l])
    (plain : .code ∉ front) (apart : .cell l ∉ front) :
    (walk beh options none container tokens).outcome w' = (.ok v, w') := by
  induction front generalizing container tokens with
  | nil =>
    rcases tokens with _ | ⟨token, tokens⟩
    · cases visited
    simp only [visits, List.nil_append, List.cons.injEq] at visited
    obtain ⟨here, behind⟩ := visited
    obtain ⟨before, held⟩ := Option.isSome_iff_exists.1 changed.writable.existed
    have busy : w.borrow l.storage ≠ .exclusive := by
      rw [changed.writable.unused]
      rintro ⟨⟩
    have here' : w'.place container token.token = .cell l := (changed.place_eq ..).trans here
    have busy' : w'.borrow l.storage ≠ .exclusive := by
      rw [changed.borrows]
      exact busy
    -- no token is left, for the location can be read
    rw [readAt_of_cell here held busy] at behind
    obtain rfl : tokens = [] := by
      cases tokens with
      | nil => rfl
      | cons => cases behind
    rw [walk, outcome_bind, outcome_step_plain beh options (by rw [here']; rintro ⟨⟩),
      readAt_of_cell here' changed.written busy']
    rfl
  | cons place front ih =>
    rcases tokens with _ | ⟨token, tokens⟩
    · cases visited
    simp only [visits, List.cons_append, List.cons.injEq] at visited
    obtain ⟨rfl, behind⟩ := visited
    rw [List.mem_cons, not_or] at plain apart
    have plain' : w'.place container token.token ≠ .code := by
      rw [changed.place_eq]
      exact Ne.symm plain.1
    rw [walk, outcome_bind, outcome_step_plain beh options plain',
      changed.readAt_eq (Ne.symm apart.1)]
    rcases found : w.readAt container token.token with fault | reached
    · rw [found] at behind
      exact absurd behind.symm (List.append_ne_nil_of_right_ne_nil front (List.cons_ne_nil _ _))
    · rw [found] at behind
      exact ih behind plain.2 apart.2

end World.Overwritten

/-! ## 4. Writes -/

/-- Setting `v` along the path from `root` comes down to writing it to `l`: the tokens in front of
the last one lead to `container` and name no code, and the last one names `l` there, where the value
can be written. -/
structure SetsAt (beh : Behaviour Code Host) (options : AccessOptions) (w : World Code Host)
    (root : Value) (path : String) (v : Value) (front : List OffsetToken) (last : OffsetToken)
    (container : Value) (l : Location) : Prop where
  sound : (scanPath path).error = none
  whole : (scanPath path).tokens = front ++ [last]
  plain : .code ∉ w.visits root front
  reached : (walk beh options none root front).outcome w = (.ok container, w)
  target : w.place container last.token = .cell l
  writable : w.Writable l
  suits : DeferredWrite.Suits w container last.token v

section

variable {beh : Behaviour Code Host} {options : AccessOptions} {root v : Value} {path : String}
  {w w' : World Code Host}

/-- The location is the last place that the path visits. -/
theorem SetsAt.visited {front : List OffsetToken} {last : OffsetToken} {container : Value}
    {l : Location} (sets : SetsAt beh options w root path v front last container l) :
    w.visits root (scanPath path).tokens = w.visits root front ++ [.cell l] := by
  obtain ⟨result, walked, onwards⟩ := walk_plain beh options sets.plain
  have same : result = .ok container := congrArg Prod.fst (walked.symm.trans sets.reached)
  rw [sets.whole, onwards container same, World.visits, sets.target]
  rcases w.readAt container last.token with fault | value <;> rfl

/-- Setting along a path that names no code, if it succeeds, is a write to a location. -/
theorem setsAt_of_set (written : (set beh options root path v).outcome w = (.ok (), w'))
    (plain : .code ∉ w.visits root (scanPath path).tokens) :
    ∃ front last container l, SetsAt beh options w root path v front last container l ∧
      w' = w.write l v := by
  rcases List.eq_nil_or_concat (scanPath path).tokens with empty | ⟨front, last, whole⟩
  · unfold PathAccess.set at written
    rw [outcome_recordFailure, empty] at written
    cases malformed : (scanPath path).error <;> simp [malformed] at written
  rw [List.concat_eq_append] at whole
  rw [outcome_set_of_tokens beh options whole root v w] at written
  rw [whole] at plain
  have plainFront : .code ∉ w.visits root front :=
    fun code => plain ((w.visits_prefix root front [last]).subset code)
  obtain ⟨result, walked, onwards⟩ := walk_plain beh options plainFront
  rw [walked] at written
  rcases result with e | container
  · cases written
  rw [onwards container rfl] at plain
  simp only at written
  rcases malformed : (scanPath path).error with _ | e
  · rw [malformed] at written
    have plainLast : w.place container last.token ≠ .code := fun code =>
      plain (List.mem_append_right _ (by rw [World.visits, code]; exact List.mem_cons_self))
    simp only [write, writeLast, outcome_bind, outcome_record] at written
    rcases applied : (DeferredWrite.apply beh ⟨container, last.token⟩ v).outcome w with
      ⟨fault | done, w''⟩
    · rw [applied] at written
      cases written
    · rw [applied] at written
      cases written
      obtain ⟨l, here, writable, suits, rfl⟩ := DeferredWrite.write_of_apply applied plainLast
      exact ⟨front, last, container, l,
        ⟨malformed, whole, plainFront, walked, here, writable, suits⟩, rfl⟩
  · rw [malformed] at written
    cases written

/-- Setting along a path that names no code, if it succeeds, overwrites the place of the last
token, which is the last place that the path visits. -/
theorem overwritten_set (written : (set beh options root path v).outcome w = (.ok (), w'))
    (plain : .code ∉ w.visits root (scanPath path).tokens) :
    (scanPath path).error = none ∧
      ∃ front l, w.visits root (scanPath path).tokens = front ++ [.cell l] ∧
        w.Overwritten l v w' := by
  obtain ⟨front, last, container, l, sets, rfl⟩ := setsAt_of_set written plain
  exact ⟨sets.sound, _, l, sets.visited, World.overwritten_write sets.writable v⟩

end

/-! ## 5. Memory -/

/-- The memory model of paths. Let setting along a path that names no code succeed, and let `l` be
the location that it has overwritten. Along any path that names no code, from any root, reading

* gives the value written if the last token visits `l` and no token before it does;
* gives what it gave before the write, a failure included, if no token visits `l`.

In particular the path itself then leads to the value written, unless it passes through `l` on its
way there. Fields of structs are no locations: a struct that holds the value written is a copy that
was made before. -/
theorem getValue_after_set {beh : Behaviour Code Host} {options : AccessOptions} {root v : Value}
    {path : String} {w w' : World Code Host}
    (written : (set beh options root path v).outcome w = (.ok (), w'))
    (plain : .code ∉ w.visits root (scanPath path).tokens) :
    ∃ front l, w.visits root (scanPath path).tokens = front ++ [.cell l] ∧
      w.Overwritten l v w' ∧
      (∀ (beh : Behaviour Code Host) options root path front,
        (scanPath path).error = none →
        w.visits root (scanPath path).tokens = front ++ [.cell l] →
        .code ∉ front → .cell l ∉ front →
        (getValue beh options root path).outcome w' = (.ok v, w')) ∧
      (∀ (beh : Behaviour Code Host) options root path,
        .code ∉ w.visits root (scanPath path).tokens →
        .cell l ∉ w.visits root (scanPath path).tokens →
        ∃ result, (getValue beh options root path).outcome w = (result, w) ∧
          (getValue beh options root path).outcome w' = (result, w')) ∧
      (.cell l ∉ front → (getValue beh options root path).outcome w' = (.ok v, w')) := by
  obtain ⟨sound, front, l, visited, changed⟩ := overwritten_set written plain
  have seen (beh : Behaviour Code Host) (options : AccessOptions) (root : Value) (path : String)
      (front : List Place) (sound : (scanPath path).error = none)
      (visited : w.visits root (scanPath path).tokens = front ++ [.cell l])
      (plain : .code ∉ front) (apart : .cell l ∉ front) :
      (getValue beh options root path).outcome w' = (.ok v, w') := by
    rw [outcome_getValue, sound]
    exact changed.walk_last beh options visited plain apart
  refine ⟨front, l, visited, changed, seen, ?_, ?_⟩
  · intro beh options root path plain apart
    rw [outcome_getValue, outcome_getValue]
    exact changed.walk_eq beh options (scanPath path).error plain apart
  · intro apart
    rw [visited] at plain
    exact seen beh options root path front sound visited
      (fun code => plain (List.mem_append_left _ code)) apart

/-- An array that is its own first element. -/
def knot : World Empty Unit :=
  { host := ()
    entities := #[{ shape := .array, storage := { cells := #[.array 0, .int 1] } }] }

theorem getValue_after_set_knot :
    let path := "Array.data[0].Array.data[1]"
    let w' := knot.write ⟨.entity 0, 1⟩ (.int 7)
    (set .idle {} (.array 0) path (.int 7)).outcome knot = (.ok (), w') ∧
      .code ∉ knot.visits (.array 0) (scanPath path).tokens ∧
      (getValue .idle {} (.array 0) path).outcome w' = (.ok (.int 7), w') ∧
      (getValue .idle {} (.array 0) "Array.data[1]").outcome w' = (.ok (.int 7), w') := by
  intro path w'
  have tokens : (scanPath path).tokens = [⟨.element 0, 0⟩] ++ [⟨.element 1, 14⟩] := by
    decide +kernel
  have sound : (scanPath path).error = none := by decide +kernel
  have visits : knot.visits (.array 0) (scanPath path).tokens =
      [.cell ⟨.entity 0, 0⟩] ++ [.cell ⟨.entity 0, 1⟩] := by
    rw [tokens]
    decide +kernel
  have written : (set .idle {} (.array 0) path (.int 7)).outcome knot = (.ok (), w') := by
    rw [outcome_set_of_tokens .idle {} tokens, sound]
    rfl
  have plain : .code ∉ knot.visits (.array 0) (scanPath path).tokens := by simp [visits]
  obtain ⟨front, l, visited, -, seen, -, again⟩ := getValue_after_set written plain
  obtain ⟨rfl, last⟩ := List.append_inj' (visits.symm.trans visited) rfl
  obtain rfl : ⟨.entity 0, 1⟩ = l := by simpa using last
  have short : knot.visits (.array 0) (scanPath "Array.data[1]").tokens =
      [] ++ [.cell ⟨.entity 0, 1⟩] := by decide +kernel
  refine ⟨written, plain, again (by decide), ?_⟩
  exact seen .idle {} (.array 0) "Array.data[1]" [] (by decide +kernel) short nofun nofun

end ObjectGraph
