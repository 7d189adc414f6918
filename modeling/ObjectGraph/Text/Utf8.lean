/-!
# Offsets in UTF-8 text

Positions in a text are counted in the bytes of its UTF-8 form. A text is handled as a list of
characters; `byteSize` measures such a list and `dropBytes` finds the character boundary at an
offset, if there is one.
-/

namespace ObjectGraph.Utf8

/-- The number of bytes that the characters take in UTF-8. -/
def byteSize : List Char → Nat
  | [] => 0
  | c :: cs => c.utf8Size + byteSize cs

/-- The text that follows the first `n` bytes; nothing if `n` lies past the end or inside a
character. -/
def dropBytes : List Char → Nat → Option (List Char)
  | [], n => if n = 0 then some [] else none
  | c :: cs, n =>
    if n = 0 then some (c :: cs)
    else if c.utf8Size ≤ n then dropBytes cs (n - c.utf8Size)
    else none

@[simp] theorem byteSize_nil : byteSize [] = 0 := rfl

@[simp] theorem byteSize_cons (c : Char) (cs : List Char) :
    byteSize (c :: cs) = c.utf8Size + byteSize cs := rfl

@[simp] theorem byteSize_append (cs ds : List Char) :
    byteSize (cs ++ ds) = byteSize cs + byteSize ds := by
  induction cs with
  | nil => simp
  | cons c cs ih => simp [ih, Nat.add_assoc]

@[simp] theorem dropBytes_zero (cs : List Char) : dropBytes cs 0 = some cs := by
  cases cs <;> simp [dropBytes]

/-- Dropping the bytes of a leading part leaves the other part. -/
@[simp] theorem dropBytes_append (cs ds : List Char) :
    dropBytes (cs ++ ds) (byteSize cs) = some ds := by
  induction cs with
  | nil => simp
  | cons c cs ih =>
    have positive := c.utf8Size_pos
    simp only [List.cons_append, dropBytes, byteSize_cons]
    rw [if_neg (by omega), if_pos (by omega)]
    simpa using ih

/-- An offset is a boundary exactly when it splits the text into two parts. -/
theorem dropBytes_eq_some_iff {cs ds : List Char} {n : Nat} :
    dropBytes cs n = some ds ↔ ∃ front, cs = front ++ ds ∧ n = byteSize front := by
  constructor
  · intro found
    induction cs generalizing n with
    | nil =>
      simp only [dropBytes] at found
      split at found <;> simp_all
    | cons c cs ih =>
      simp only [dropBytes] at found
      split at found
      · next atStart => exact ⟨[], by simpa using found, by simpa using atStart⟩
      · split at found
        · next fits =>
          obtain ⟨front, rfl, size⟩ := ih found
          exact ⟨c :: front, rfl, by rw [byteSize_cons]; omega⟩
        · cases found
  · rintro ⟨front, rfl, rfl⟩
    exact dropBytes_append front ds

end ObjectGraph.Utf8
