import Mathlib.Data.List.Induction
import ObjectGraph.Proofs.Path.RoundTrip

/-!
# The normal form of a path

Writing a path that has been read gives its text back in normal form. The text loses one separator
at its end, if it has one, and each index loses its redundant leading zeros. Nothing else changes.

1. `Decimal.withoutLeadingZeros`, `Decimal.digits_value`: the shortest notation of a number;
2. `Grammar.normal`: the normal form of a text, piece by piece;
3. `pieces_eq_splitOn`, `getLast?_splitOn`: separators at the end of a text;
4. `tokenPieces_read`: the pieces that tokens are written as are the normal ones;
5. `text_of_parse`: the text of a path that has been read, and what it is read as again.
-/

namespace ObjectGraph

namespace Decimal

/-! ## 1. Leading zeros -/

/-- A notation without the zeros in front of its other digits. The last digit always stays. -/
def withoutLeadingZeros : List Char → List Char
  | '0' :: c :: cs => withoutLeadingZeros (c :: cs)
  | cs => cs

/-- Zeros stand in front of other digits. -/
def HasLeadingZero (digits : List Char) : Prop := digits.head? = some '0' ∧ 1 < digits.length

instance (digits : List Char) : Decidable (HasLeadingZero digits) :=
  inferInstanceAs (Decidable (_ ∧ _))

theorem withoutLeadingZeros_of_not {digits : List Char} (short : ¬ HasLeadingZero digits) :
    withoutLeadingZeros digits = digits := by
  unfold withoutLeadingZeros
  split
  · next c cs => exact absurd ⟨rfl, by simp⟩ short
  · rfl

theorem not_hasLeadingZero (digits : List Char) :
    ¬ HasLeadingZero (withoutLeadingZeros digits) := by
  induction digits using withoutLeadingZeros.induct with
  | case1 c cs ih => rwa [withoutLeadingZeros]
  | case2 cs plain =>
    rw [withoutLeadingZeros.eq_2 cs plain]
    rintro ⟨zero, long⟩
    match cs with
    | [] => cases zero
    | [c] => simp at long
    | c :: d :: cs =>
      obtain rfl : c = '0' := Option.some.inj zero
      exact plain d cs rfl

theorem withoutLeadingZeros_eq_self_iff {digits : List Char} :
    withoutLeadingZeros digits = digits ↔ ¬ HasLeadingZero digits :=
  ⟨fun same => same ▸ not_hasLeadingZero digits, withoutLeadingZeros_of_not⟩

theorem isDigit_iff {c : Char} : isDigit c = true ↔ 48 ≤ c.toNat ∧ c.toNat ≤ 57 := by
  simp only [isDigit, Bool.and_eq_true, decide_eq_true_eq]
  rfl

/-- Each digit is the character of its value, which is below ten. -/
theorem digit_digitValue {c : Char} (is_digit : isDigit c = true) :
    digitValue c < 10 ∧ digit (digitValue c) = c := by
  obtain ⟨low, high⟩ := isDigit_iff.1 is_digit
  refine ⟨by rw [digitValue]; omega, ?_⟩
  rw [digit, digitValue, Nat.add_sub_cancel' low, Char.ofNat_toNat]

theorem digitValue_pos {c : Char} (is_digit : isDigit c = true) (nonzero : c ≠ '0') :
    0 < digitValue c := by
  obtain ⟨low, -⟩ := isDigit_iff.1 is_digit
  have different : c.toNat ≠ 48 := fun same => nonzero (Char.toNat_inj.1 same)
  rw [digitValue]
  omega

/-- A number with one more digit behind it. -/
theorem digits_append {n d : Nat} (pos : 0 < n) (small : d < 10) :
    digits (10 * n + d) = digits n ++ [digit d] := by
  rw [digits, if_neg (by omega), show (10 * n + d) / 10 = n by omega,
    show (10 * n + d) % 10 = d by omega]

/-- A notation that does not begin with a zero has a positive value and is the notation of it. -/
theorem digits_value_of_head {cs : List Char} (decimal : cs.all isDigit = true) (filled : cs ≠ [])
    (nonzero : cs.head? ≠ some '0') : 0 < value cs ∧ digits (value cs) = cs := by
  induction cs using List.reverseRecOn with
  | nil => exact absurd rfl filled
  | append_singleton front c ih =>
    rw [List.all_append, Bool.and_eq_true, List.all_cons, List.all_nil, Bool.and_true] at decimal
    obtain ⟨small, same⟩ := digit_digitValue decimal.2
    rw [value_append]
    rcases front with _ | ⟨first, front⟩
    · have pos := digitValue_pos decimal.2 fun zero => nonzero (by rw [zero]; rfl)
      refine ⟨by omega, ?_⟩
      rw [show value [] = 0 from rfl, Nat.mul_zero, Nat.zero_add, digits, if_pos small, same]
      rfl
    · obtain ⟨pos, digits_front⟩ := ih decimal.1 (List.cons_ne_nil first front) nonzero
      exact ⟨by omega, by rw [digits_append pos small, digits_front, same]⟩

/-- The shortest notation of the value of some digits is these digits without leading zeros. -/
theorem digits_value {cs : List Char} (decimal : cs.all isDigit = true) (filled : cs ≠ []) :
    digits (value cs) = withoutLeadingZeros cs := by
  induction cs using withoutLeadingZeros.induct with
  | case1 c cs ih =>
    have behind : (c :: cs).all isDigit = true := by
      rw [List.all_cons, Bool.and_eq_true] at decimal
      exact decimal.2
    rw [withoutLeadingZeros, ← ih behind (List.cons_ne_nil c cs)]
    rfl
  | case2 cs plain =>
    rw [withoutLeadingZeros.eq_2 cs plain]
    by_cases zero : cs = ['0']
    · subst zero
      decide +kernel
    · refine (digits_value_of_head decimal filled fun head => ?_).2
      match cs with
      | [c] => exact zero (by rw [Option.some.inj head])
      | c :: d :: cs =>
        obtain rfl : c = '0' := Option.some.inj head
        exact plain d cs rfl

end Decimal

namespace Grammar

/-! ## 2. Normal form -/

/-- A text without one separator at its end. -/
def withoutFinalStop (cs : List Char) : List Char :=
  if cs.getLast? = some '.' then cs.dropLast else cs

/-- What stands between the brackets of a piece `data[N]`. -/
def bracketed (piece : List Char) : List Char := (piece.drop dataOpening.length).dropLast

/-- The pieces with the redundant leading zeros of each index removed. -/
def normalPieces : List (List Char) → List (List Char)
  | piece :: next :: later =>
    if piece = arrayPiece ∧ dataOpening <+: next then
      piece :: (dataOpening ++ Decimal.withoutLeadingZeros (bracketed next) ++ [']']) ::
        normalPieces later
    else piece :: normalPieces (next :: later)
  | pieces => pieces

/-- The digits of each index. -/
def indices : List (List Char) → List (List Char)
  | piece :: next :: later =>
    if piece = arrayPiece ∧ dataOpening <+: next then bracketed next :: indices later
    else indices (next :: later)
  | _ => []

/-- A text without one separator at its end and without the redundant leading zeros of its
indices. -/
def normal (cs : List Char) : List Char :=
  ['.'].intercalate (normalPieces ((withoutFinalStop cs).splitOn '.'))

example :
    String.ofList (normal "data[01].Array.data[007].Array.data[00]..".toList) =
      "data[01].Array.data[7].Array.data[0]." := by
  decide +kernel

theorem bracketed_eq (digits : List Char) :
    bracketed (dataOpening ++ digits ++ [']']) = digits := by
  rw [bracketed, List.append_assoc, List.drop_left, List.dropLast_concat]

theorem length_normalPieces (ps : List (List Char)) :
    (normalPieces ps).length = ps.length := by
  induction ps using normalPieces.induct with
  | case1 piece next later opened ih => simp [normalPieces, opened, ih]
  | case2 piece next later plain ih => simp [normalPieces, plain, ih]
  | case3 ps single => rw [normalPieces.eq_2 ps single]

/-- The last piece is empty in normal form if and only if it is empty. -/
theorem getLast?_normalPieces (ps : List (List Char)) :
    (normalPieces ps).getLast? = some [] ↔ ps.getLast? = some [] := by
  induction ps using normalPieces.induct with
  | case1 piece next later opened ih =>
    rw [normalPieces, if_pos opened]
    cases later with
    | nil =>
      have filled : next ≠ [] := by
        rintro rfl
        exact absurd opened.2 (by decide)
      simp [normalPieces, filled]
    | cons third later =>
      obtain ⟨first, rest, normal⟩ := List.exists_cons_of_ne_nil
        (List.length_pos_iff.1 (by simp [length_normalPieces] :
          0 < (normalPieces (third :: later)).length))
      rw [normal] at ih ⊢
      simpa using ih
  | case2 piece next later plain ih =>
    obtain ⟨first, rest, normal⟩ := List.exists_cons_of_ne_nil
      (List.length_pos_iff.1 (by simp [length_normalPieces] :
        0 < (normalPieces (next :: later)).length))
    rw [normalPieces, if_neg plain]
    rw [normal] at ih ⊢
    simpa using ih
  | case3 ps single => rw [normalPieces.eq_2 ps single]

/-! ## 3. Separators at the end -/

/-- The last piece of a text is empty if the text is, or if a separator ends it. -/
theorem getLast?_splitOn (cs : List Char) :
    (cs.splitOn '.').getLast? = some [] ↔ cs = [] ∨ cs.getLast? = some '.' := by
  have whole := before_append_onwards '.' cs
  have absent := not_mem_before '.' cs
  rcases found : onwards '.' cs with _ | ⟨c, rest⟩
  · rw [found, List.append_nil] at whole
    rw [whole] at absent
    rw [List.splitOn_eq_singleton absent]
    have unended : cs.getLast? ≠ some '.' := fun last => absent (List.mem_of_getLast? last)
    simp [unended]
  · obtain rfl := onwards_head found
    rw [found] at whole
    have split : cs.splitOn '.' = before '.' cs :: rest.splitOn '.' := by
      rw [← List.splitOn_append_cons_self_of_not_mem absent rest, whole]
    obtain ⟨first, others, pieces_rest⟩ :=
      List.exists_cons_of_ne_nil (List.splitOn_ne_nil '.' rest)
    have ih := getLast?_splitOn rest
    rw [split, pieces_rest, List.getLast?_cons_cons, ← pieces_rest, ih, ← whole]
    rcases List.eq_nil_or_concat rest with rfl | ⟨front, last, rfl⟩
    · simp
    · simp [List.getLast?_cons]
termination_by cs.length
decreasing_by
  have shorter := length_onwards '.' cs
  rw [found, List.length_cons] at shorter
  omega

theorem splitOn_concat_stop (front : List Char) :
    (front ++ ['.']).splitOn '.' = front.splitOn '.' ++ [[]] :=
  List.splitOnP_append_cons front [] (beq_self_eq_true '.')

/-- The pieces of a text are those of the text without the separator at its end. -/
theorem pieces_eq_splitOn {cs : List Char} (filled : cs ≠ []) :
    pieces cs = (withoutFinalStop cs).splitOn '.' := by
  rw [pieces, dropFinalEmpty, withoutFinalStop]
  by_cases ended : cs.getLast? = some '.'
  · obtain ⟨front, rfl⟩ := List.getLast?_eq_some_iff.1 ended
    rw [if_pos ((getLast?_splitOn _).2 (.inr ended)), if_pos ended, splitOn_concat_stop,
      List.dropLast_concat, List.dropLast_concat]
  · rw [if_neg ended, if_neg fun empty => ((getLast?_splitOn cs).1 empty).elim filled ended]

/-- The normal form of a text has the normal pieces. -/
theorem normal_eq (cs : List Char) :
    normal cs = ['.'].intercalate (normalPieces (pieces cs)) := by
  by_cases empty : cs = []
  · subst empty
    rfl
  · rw [normal, pieces_eq_splitOn empty]

/-- The last piece of a text is empty if there is nothing else than a separator, or if there are two
at the end. -/
theorem getLast?_pieces (cs : List Char) :
    (pieces cs).getLast? = some [] ↔ cs = ['.'] ∨ ['.', '.'] <:+ cs := by
  by_cases empty : cs = []
  · subst empty
    simp
  rw [pieces_eq_splitOn empty, getLast?_splitOn, withoutFinalStop]
  by_cases ended : cs.getLast? = some '.'
  · obtain ⟨front, rfl⟩ := List.getLast?_eq_some_iff.1 ended
    have second : ['.', '.'] <:+ front ++ ['.'] ↔ front.getLast? = some '.' := by
      rw [List.getLast?_eq_some_iff]
      refine exists_congr fun init => ?_
      rw [show ['.', '.'] = ['.'] ++ ['.'] from rfl, ← List.append_assoc,
        List.append_cancel_right_eq, eq_comm]
    rw [if_pos ended, List.dropLast_concat, second]
    simp
  · have unended : ¬ ['.', '.'] <:+ cs := by
      rintro ⟨init, rfl⟩
      exact ended (by simp)
    have several : cs ≠ ['.'] := by
      rintro rfl
      exact ended rfl
    rw [if_neg ended]
    simp [empty, ended, unended, several]

/-! ## 4. Tokens that have been read -/

/-- Pieces that are all accepted are in normal form when their tokens are written. -/
theorem tokenPieces_read {start : Nat} {ps : List (List Char)}
    (legal : (read start ps).illegal = none) :
    tokenPieces (read start ps).path = normalPieces ps := by
  induction start, ps using read.induct with
  | case1 => rfl
  | case2 start piece => simp [read, Reading.path, tokenPieces, segmentPieces, normalPieces]
  | case3 start piece next later opened index is_index ih =>
    simp only [read, if_pos opened, is_index, Reading.illegal_cons] at legal
    obtain ⟨digits, rfl, ⟨filled, decimal, small⟩, rfl⟩ := indexOf?_eq_some_iff.1 is_index
    obtain ⟨rfl, begins⟩ := opened
    have written : segmentPieces (.element (UInt64.ofNat (Decimal.value digits))) =
        [arrayPiece, dataOpening ++ Decimal.withoutLeadingZeros digits ++ [']']] := by
      rw [segmentPieces, UInt64.toNat_ofNat_of_lt' small, Decimal.digits_value decimal filled]
    rw [read_index _ begins, is_index, normalPieces, if_pos ⟨rfl, begins⟩, bracketed_eq,
      ← ih legal]
    exact congrArg (· ++ tokenPieces _) written
  | case4 start piece next later opened illegal =>
    simp [read, opened, illegal] at legal
  | case5 start piece next later plain ih =>
    simp only [read, if_neg plain, Reading.illegal_cons] at legal
    simp only [read, if_neg plain, Reading.path_cons, tokenPieces_cons, ih legal, segmentPieces,
      normalPieces, String.toList_ofList, List.cons_append, List.nil_append]

/-- Pieces that are all accepted are in normal form if and only if no index has leading zeros. -/
theorem normalPieces_eq_self_iff {start : Nat} {ps : List (List Char)}
    (legal : (read start ps).illegal = none) :
    normalPieces ps = ps ↔ ∀ digits ∈ indices ps, ¬ Decimal.HasLeadingZero digits := by
  induction start, ps using read.induct with
  | case1 => simp [normalPieces, indices]
  | case2 start piece => simp [normalPieces, indices]
  | case3 start piece next later opened index is_index ih =>
    simp only [read, if_pos opened, is_index, Reading.illegal_cons] at legal
    obtain ⟨digits, rfl, -, -⟩ := indexOf?_eq_some_iff.1 is_index
    rw [normalPieces, if_pos opened, indices, if_pos opened, bracketed_eq, List.forall_mem_cons,
      ← ih legal, ← Decimal.withoutLeadingZeros_eq_self_iff]
    simp
  | case4 start piece next later opened illegal =>
    simp [read, opened, illegal] at legal
  | case5 start piece next later plain ih =>
    simp only [read, if_neg plain, Reading.illegal_cons] at legal
    rw [normalPieces, if_neg plain, indices, if_neg plain, ← ih legal]
    simp

/-- A text whose segments are all accepted is in normal form if and only if no separator ends it and
no index has leading zeros. -/
theorem normal_eq_self_iff {cs : List Char} (legal : (read 0 (pieces cs)).illegal = none) :
    normal cs = cs ↔ cs.getLast? ≠ some '.' ∧
      ∀ digits ∈ indices (cs.splitOn '.'), ¬ Decimal.HasLeadingZero digits := by
  by_cases empty : cs = []
  · subst empty
    simp [normal, withoutFinalStop, normalPieces, indices]
  have some_piece : normalPieces (pieces cs) ≠ [] := by
    rw [← List.length_pos_iff, length_normalPieces, pieces_eq_splitOn empty]
    exact List.length_pos_iff.2 (List.splitOn_ne_nil '.' _)
  have undotted : ∀ piece ∈ normalPieces (pieces cs), '.' ∉ piece := by
    rw [← tokenPieces_read legal]
    exact dot_not_mem_tokenPieces fun name among => dot_not_mem_pieces cs _ (mem_of_read among)
  -- Both texts are split, which loses nothing.
  have split : normal cs = cs ↔ normalPieces (pieces cs) = cs.splitOn '.' := by
    rw [normal_eq]
    constructor
    · intro same
      rw [← List.splitOn_intercalate '.' undotted some_piece, same]
    · intro same
      rw [same, List.intercalate_splitOn]
  rw [split]
  by_cases ended : cs.getLast? = some '.'
  · obtain ⟨front, rfl⟩ := List.getLast?_eq_some_iff.1 ended
    refine iff_of_false (fun same => ?_) fun plain => plain.1 ended
    have count := congrArg List.length same
    rw [length_normalPieces, pieces_eq_splitOn empty, withoutFinalStop, if_pos ended,
      List.dropLast_concat, splitOn_concat_stop, List.length_append, List.length_singleton] at count
    omega
  · have same : pieces cs = cs.splitOn '.' := by
      rw [pieces_eq_splitOn empty, withoutFinalStop, if_neg ended]
    rw [← same, normalPieces_eq_self_iff legal, and_iff_right ended]

/-- The tokens without an empty name at the end. -/
def withoutFinalEmpty (tokens : List Token) : List Token :=
  if tokens.getLast? = some (.member "") then tokens.dropLast else tokens

theorem dropFinalEmpty_tokenPieces (tokens : List Token) :
    dropFinalEmpty (tokenPieces tokens) = tokenPieces (withoutFinalEmpty tokens) := by
  rw [dropFinalEmpty, withoutFinalEmpty]
  by_cases ends : tokens.getLast? = some (.member "")
  · rw [if_pos ((getLast?_tokenPieces tokens).2 ends), if_pos ends]
    obtain ⟨front, rfl⟩ := List.getLast?_eq_some_iff.1 ends
    rw [List.dropLast_concat, tokenPieces, List.flatMap_append, List.flatMap_singleton]
    exact List.dropLast_concat
  · rw [if_neg (mt (getLast?_tokenPieces tokens).1 ends), if_neg ends]

theorem withoutFinalEmpty_eq_self_iff {tokens : List Token} :
    withoutFinalEmpty tokens = tokens ↔ tokens.getLast? ≠ some (.member "") := by
  rw [withoutFinalEmpty]
  by_cases ends : tokens.getLast? = some (.member "")
  · obtain ⟨front, rfl⟩ := List.getLast?_eq_some_iff.1 ends
    simp
  · simp [ends]

theorem withoutFinalEmpty_begins (tokens : List Token) : withoutFinalEmpty tokens <+: tokens := by
  rw [withoutFinalEmpty]
  split
  · exact List.dropLast_prefix tokens
  · exact List.prefix_rfl

end Grammar

namespace PropertyPath

open Grammar

/-- A path that has been read and written is read again, without an empty name at its end. -/
theorem parse_text_of_parse {path : String} {p : PropertyPath} (parsed : parse path = .ok p) :
    parse p.text = .ok { tokens := withoutFinalEmpty p.tokens } := by
  obtain ⟨-, tokens⟩ := parse_eq_ok_iff.1 parsed
  have undotted : ∀ name, .member name ∈ p.tokens → '.' ∉ name.toList := by
    intro name among
    rw [← tokens] at among
    exact dot_not_mem_pieces _ _ (mem_of_read among)
  have apart : ∀ name, [.member "Array", .member name] <:+: withoutFinalEmpty p.tokens →
      ¬ dataOpening <+: name.toList := by
    intro name adjacent
    have before := adjacent.trans (withoutFinalEmpty_begins p.tokens).isInfix
    rw [← tokens] at before
    exact not_opening_of_read before
  rw [parse_eq_ok_iff, reading, text, String.toList_ofList, pieces_joinSegments undotted,
    dropFinalEmpty_tokenPieces]
  exact read_tokenPieces apart 0

/-- Writing a path that has been read puts its text into normal form.

The text is as it was before if it has been in normal form, that is if no separator ends it and if
no index has leading zeros. It is read as the same path again unless that path ends with an empty
name: then the text was a single separator, or had two of them at its end. -/
theorem text_of_parse {path : String} {p : PropertyPath} (parsed : parse path = .ok p) :
    p.text = String.ofList (normal path.toList) ∧
    (p.text = path ↔ path.toList.getLast? ≠ some '.' ∧
      ∀ digits ∈ indices (path.toList.splitOn '.'), ¬ Decimal.HasLeadingZero digits) ∧
    (parse p.text = .ok p ↔ path ≠ "." ∧ ¬ ['.', '.'] <:+ path.toList) := by
  obtain ⟨legal, tokens⟩ := parse_eq_ok_iff.1 parsed
  have written : tokenPieces p.tokens = normalPieces (pieces path.toList) := by
    rw [← tokens]
    exact tokenPieces_read legal
  have normal_text : joinSegments p.tokens = normal path.toList := by
    rw [joinSegments_eq, written, normal_eq]
  refine ⟨congrArg String.ofList normal_text, ?_, ?_⟩
  · rw [text, normal_text, ← String.toList_inj, String.toList_ofList]
    exact normal_eq_self_iff legal
  · have ends : p.tokens.getLast? = some (.member "") ↔
        path.toList = ['.'] ∨ ['.', '.'] <:+ path.toList := by
      rw [← getLast?_tokenPieces, written, getLast?_normalPieces, getLast?_pieces]
    have same : ({ tokens := withoutFinalEmpty p.tokens } : PropertyPath) = p ↔
        withoutFinalEmpty p.tokens = p.tokens := by
      rw [PropertyPath.mk.injEq]
    have single : path.toList = ['.'] ↔ path = "." :=
      (String.toList_inj : path.toList = ".".toList ↔ path = ".")
    rw [parse_text_of_parse parsed, Except.ok.injEq, same, withoutFinalEmpty_eq_self_iff, Ne, ends,
      single, not_or]

/-- The last index loses two zeros, and an empty name at the end is not read again. -/
theorem text_of_parse_padded :
    let path := "data[01].Array.data[007].."
    let p : PropertyPath := ⟨[.member "data[01]", .element 7, .member ""]⟩
    parse path = .ok p ∧ p.text = "data[01].Array.data[7]." ∧ p.text ≠ path ∧
      parse p.text ≠ .ok p := by
  intro path p
  have parsed : parse path = .ok p := by
    rw [parse_eq_ok_iff]
    decide +kernel
  obtain ⟨normal_text, unchanged, again⟩ := text_of_parse parsed
  refine ⟨parsed, normal_text.trans (by decide +kernel), fun same => ?_, fun same => ?_⟩
  · exact (unchanged.1 same).1 (by decide)
  · exact (again.1 same).2 (by decide)

end PropertyPath

end ObjectGraph
