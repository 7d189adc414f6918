import ObjectGraph.Path.PropertyPath
import ObjectGraph.Proofs.Path.Grammar

/-!
# Paths that survive being written and read

A property path is written as the pieces of its tokens, joined by separators. Reading the text
gives the path back unless the writer has lost something:

- a separator inside a name cuts the name in two;
- an empty name at the end leaves nothing behind the last separator;
- the name `Array` in front of a name that begins with `data[` reads as one index segment.

There is no other loss (`parse_text_eq_ok_iff`). Both directions compare the pieces of the text
with the pieces of the tokens: the reader takes the pieces of a text in turn and loses none
(`length_tokenPieces_read`), so what it makes of a text cannot be written with more pieces than the
text has.
-/

namespace ObjectGraph

namespace Grammar

/-! ## 1. The pieces of a token -/

/-- The pieces that a token is written as. -/
def segmentPieces : Token → List (List Char)
  | .member name => [name.toList]
  | .element index => [arrayPiece, dataOpening ++ Decimal.digits index.toNat ++ [']']]

/-- The pieces that some tokens are written as. -/
def tokenPieces (tokens : List Token) : List (List Char) := tokens.flatMap segmentPieces

@[simp] theorem tokenPieces_cons (token : Token) (tokens : List Token) :
    tokenPieces (token :: tokens) = segmentPieces token ++ tokenPieces tokens := rfl

theorem segmentPieces_ne_nil (token : Token) : segmentPieces token ≠ [] := by
  cases token <;> exact List.cons_ne_nil _ _

theorem tokenPieces_ne_nil {tokens : List Token} (some_token : tokens ≠ []) :
    tokenPieces tokens ≠ [] := by
  obtain ⟨token, later, rfl⟩ := List.exists_cons_of_ne_nil some_token
  exact List.append_ne_nil_of_left_ne_nil (segmentPieces_ne_nil token) _

/-- The text of some tokens is that of their pieces. -/
theorem joinSegments_eq (tokens : List Token) :
    PropertyPath.joinSegments tokens = ['.'].intercalate (tokenPieces tokens) := by
  induction tokens using PropertyPath.joinSegments.induct with
  | case1 => rfl
  | case2 token =>
    cases token with
    | member name => simp [PropertyPath.joinSegments, Token.chars, tokenPieces, segmentPieces]
    | element index =>
      simp [PropertyPath.joinSegments, Token.chars, tokenPieces, segmentPieces, indexOpening_eq]
  | case3 token next tokens ih =>
    have more := tokenPieces_ne_nil (List.cons_ne_nil next tokens)
    rw [PropertyPath.joinSegments, ih, tokenPieces_cons token]
    generalize tokenPieces (next :: tokens) = later at more ⊢
    cases token with
    | member name =>
      simp [Token.chars, segmentPieces, List.intercalate_cons_of_ne_nil more]
    | element index =>
      simp [Token.chars, segmentPieces, List.intercalate_cons_of_ne_nil more, indexOpening_eq]

/-- No piece contains a separator. -/
theorem dot_not_mem_pieces (cs : List Char) : ∀ piece ∈ pieces cs, '.' ∉ piece := by
  intro piece inside
  by_cases empty : cs = []
  · subst empty
    cases inside
  rw [pieces_eq empty, List.mem_cons] at inside
  rcases inside with rfl | behind
  · exact not_mem_before '.' cs
  · exact dot_not_mem_pieces _ piece behind
termination_by cs.length
decreasing_by
  have filled := List.length_pos_iff.2 empty
  have shorter := length_onwards '.' cs
  simp only [List.length_tail]
  omega

/-- Names without a separator are written as pieces without one. -/
theorem dot_not_mem_tokenPieces {tokens : List Token}
    (undotted : ∀ name, .member name ∈ tokens → '.' ∉ name.toList) :
    ∀ piece ∈ tokenPieces tokens, '.' ∉ piece := by
  intro piece inside
  obtain ⟨token, among, written⟩ := List.mem_flatMap.1 inside
  cases token with
  | member name =>
    obtain rfl := List.mem_singleton.1 written
    exact undotted name among
  | element index =>
    have digits := not_mem_digits (by decide : Decimal.isDigit '.' = false)
      (Decimal.all_isDigit_digits index.toNat)
    simp only [segmentPieces, List.mem_cons, List.not_mem_nil, or_false] at written
    rcases written with rfl | rfl
    · exact dot_not_mem_arrayPiece
    · simp [digits, dot_not_mem_dataOpening]

/-- The text of undotted names has the pieces that they are written as, less an empty one at the
end. -/
theorem pieces_joinSegments {tokens : List Token}
    (undotted : ∀ name, .member name ∈ tokens → '.' ∉ name.toList) :
    pieces (PropertyPath.joinSegments tokens) = dropFinalEmpty (tokenPieces tokens) := by
  by_cases none : tokens = []
  · subst none
    rfl
  · rw [joinSegments_eq, pieces, List.splitOn_intercalate '.' (dot_not_mem_tokenPieces undotted)
      (tokenPieces_ne_nil none)]

theorem getLast?_tokenPieces (tokens : List Token) :
    (tokenPieces tokens).getLast? = some [] ↔ tokens.getLast? = some (.member "") := by
  rcases List.eq_nil_or_concat tokens with rfl | ⟨front, last, rfl⟩
  · simp [tokenPieces]
  · rw [List.concat_eq_append, tokenPieces, List.flatMap_append, List.flatMap_singleton]
    cases last with
    | member name => simp [segmentPieces]
    | element index => simp [segmentPieces, List.getLast?_append]

/-! ## 2. What the grammar makes of pieces -/

/-- The tokens that the grammar reads. -/
def Reading.path (reading : Reading) : List Token := reading.tokens.map (·.token)

@[simp] theorem Reading.path_cons (token : OffsetToken) (reading : Reading) :
    (reading.cons token).path = token.token :: reading.path := rfl

@[simp] theorem Reading.illegal_cons (token : OffsetToken) (reading : Reading) :
    (reading.cons token).illegal = reading.illegal := rfl

/-- A path is read in full if the grammar rejects none of its segments. -/
theorem parse_eq_ok_iff {path : String} {p : PropertyPath} :
    PropertyPath.parse path = .ok p ↔
      (reading path).illegal = none ∧ (reading path).path = p.tokens := by
  obtain ⟨tokens, faults⟩ := scan_eq_read (.ofPath path)
  obtain ⟨expected⟩ := p
  have same : (scanPath path).tokens = (reading path).tokens := tokens
  have illegal : (reading path).illegal =
    (read (TokenStream.ofPath path).offset (pieces (TokenStream.ofPath path).rest)).illegal := rfl
  rw [PropertyPath.parse, Reading.path, same, illegal]
  split at faults
  · next legal =>
    have fine : (scanPath path).error = none := faults
    simp [fine, legal]
  · next start rejected =>
    obtain ⟨e, fault, -⟩ := faults
    have wrong : (scanPath path).error = some e := fault
    simp [wrong, rejected]

/-- Every name that is read is a piece. -/
theorem mem_of_read {start : Nat} {ps : List (List Char)} {name : String}
    (among : .member name ∈ (read start ps).path) : name.toList ∈ ps := by
  induction start, ps using read.induct with
  | case1 => cases among
  | case2 start piece =>
    simp only [read, Reading.path, List.map_cons, List.map_nil, List.mem_singleton,
      Token.member.injEq] at among
    simp [among]
  | case3 start piece next later opened index legal ih =>
    simp only [read, if_pos opened, legal, Reading.path_cons, List.mem_cons, reduceCtorEq,
      false_or] at among
    exact List.mem_cons_of_mem _ (List.mem_cons_of_mem _ (ih among))
  | case4 start piece next later opened illegal =>
    simp [read, opened, illegal, Reading.path] at among
  | case5 start piece next later plain ih =>
    simp only [read, if_neg plain, Reading.path_cons, List.mem_cons, Token.member.injEq] at among
    rcases among with rfl | after
    · simp
    · exact List.mem_cons_of_mem _ (ih after)

/-- Pieces that are all accepted are as many as the tokens read are written with. -/
theorem length_tokenPieces_read {start : Nat} {ps : List (List Char)}
    (legal : (read start ps).illegal = none) :
    (tokenPieces (read start ps).path).length = ps.length := by
  induction start, ps using read.induct with
  | case1 => rfl
  | case2 start piece => rfl
  | case3 start piece next later opened index is_index ih =>
    simp only [read, if_pos opened, is_index, Reading.illegal_cons] at legal
    simp only [read, if_pos opened, is_index, Reading.path_cons, tokenPieces_cons,
      List.length_append, ih legal, segmentPieces, List.length_cons, List.length_nil]
    omega
  | case4 start piece next later opened illegal =>
    simp [read, opened, illegal] at legal
  | case5 start piece next later plain ih =>
    simp only [read, if_neg plain, Reading.illegal_cons] at legal
    simp only [read, if_neg plain, Reading.path_cons, tokenPieces_cons, List.length_append,
      ih legal, segmentPieces, List.length_cons, List.length_nil]
    omega

/-- A name that is read first is the first piece. -/
theorem eq_of_read_member {start : Nat} {piece : List Char} {later : List (List Char)}
    {name : String} {tokens : List Token}
    (first : (read start (piece :: later)).path = .member name :: tokens) :
    name.toList = piece := by
  by_cases opens : OpensIndex piece later
  · obtain ⟨rfl, next, rest, rfl, opened⟩ := opens
    rw [read_index rest opened] at first
    split at first
    · cases first
    · cases first
  · rw [read_member opens, Reading.path_cons] at first
    cases first
    exact String.toList_ofList

/-- The grammar never reads the two names that would be one index segment. -/
theorem not_opening_of_read {start : Nat} {ps : List (List Char)} {name : String}
    (adjacent : [.member "Array", .member name] <:+: (read start ps).path) :
    ¬ dataOpening <+: name.toList := by
  induction start, ps using read.induct with
  | case1 => simp [read, Reading.path] at adjacent
  | case2 start piece =>
    have short := adjacent.length_le
    simp [read, Reading.path] at short
  | case3 start piece next later opened index legal ih =>
    simp only [read, if_pos opened, legal, Reading.path_cons, List.infix_cons_iff,
      List.cons_prefix_cons, reduceCtorEq, false_and, false_or] at adjacent
    exact ih adjacent
  | case4 start piece next later opened illegal =>
    simp [read, opened, illegal, Reading.path] at adjacent
  | case5 start piece next later plain ih =>
    simp only [read, if_neg plain, Reading.path_cons, List.infix_cons_iff,
      List.cons_prefix_cons, Token.member.injEq] at adjacent
    rcases adjacent with ⟨array, tokens, first⟩ | after
    · intro opened
      rw [eq_of_read_member first.symm] at opened
      refine plain ⟨?_, opened⟩
      rw [← String.toList_ofList (l := piece), ← array]
      rfl
    · exact ih after

/-- A number that is written is read again. -/
theorem indexOf?_digits (index : UInt64) :
    indexOf? (dataOpening ++ Decimal.digits index.toNat ++ [']']) = some index := by
  have small : Decimal.value (Decimal.digits index.toNat) < UInt64.size := by
    rw [Decimal.value_digits]
    exact index.toNat_lt
  refine indexOf?_eq_some_iff.2 ⟨_, rfl, ⟨Decimal.digits_ne_nil _,
    Decimal.all_isDigit_digits _, small⟩, ?_⟩
  rw [Decimal.value_digits, UInt64.ofNat_toNat]

/-- The pieces of some tokens are read as these tokens, unless two names look like an index. -/
theorem read_tokenPieces {tokens : List Token}
    (apart : ∀ name, [.member "Array", .member name] <:+: tokens → ¬ dataOpening <+: name.toList)
    (start : Nat) :
    (read start (tokenPieces tokens)).illegal = none ∧
      (read start (tokenPieces tokens)).path = tokens := by
  induction tokens generalizing start with
  | nil => exact ⟨rfl, rfl⟩
  | cons token later ih =>
    have rest := ih fun name adjacent => apart name (adjacent.trans (List.suffix_cons _ _).isInfix)
    rw [tokenPieces_cons]
    cases token with
    | element index =>
      have opened : dataOpening <+: dataOpening ++ Decimal.digits index.toNat ++ [']'] := by
        rw [List.append_assoc]
        exact List.prefix_append _ _
      rw [segmentPieces, List.cons_append, List.singleton_append, read_index _ opened,
        indexOf?_digits]
      exact ⟨(rest _).1, congrArg _ (rest _).2⟩
    | member name =>
      have plain : ¬ OpensIndex name.toList (tokenPieces later) := by
        rintro ⟨array, next, pieces, written, opened⟩
        obtain rfl : name = "Array" := String.toList_inj.1 array
        cases later with
        | nil => cases written
        | cons second later =>
          cases second with
          | element index =>
            cases written
            exact absurd opened (by decide)
          | member second =>
            cases written
            exact apart second ⟨[], later, rfl⟩ opened
      rw [segmentPieces, List.singleton_append, read_member plain, String.ofList_toList]
      exact ⟨(rest _).1, congrArg _ (rest _).2⟩

end Grammar

open Grammar in
/-- A path is read back from its text if and only if no name contains a separator, no empty name
ends it, and no name `Array` stands in front of a name that begins with `data[`. -/
theorem PropertyPath.parse_text_eq_ok_iff (p : PropertyPath) :
    parse p.text = .ok p ↔
      (∀ name, .member name ∈ p.tokens → '.' ∉ name.toList) ∧
      p.last? ≠ some (.member "") ∧
      ∀ name, [.member "Array", .member name] <:+: p.tokens →
        ¬ "data[".toList <+: name.toList := by
  rw [parse_eq_ok_iff, reading, text, String.toList_ofList]
  constructor
  · rintro ⟨legal, path⟩
    have undotted : ∀ name, .member name ∈ p.tokens → '.' ∉ name.toList := by
      intro name among
      rw [← path] at among
      exact dot_not_mem_pieces _ _ (mem_of_read among)
    rw [pieces_joinSegments undotted] at legal path
    refine ⟨undotted, ?_, ?_⟩
    · intro ends
      -- The empty name is dropped, so the text has a piece less than the path is written with.
      have count := length_tokenPieces_read legal
      have dropped := (getLast?_tokenPieces p.tokens).2 ends
      have filled : tokenPieces p.tokens ≠ [] := by
        intro empty
        rw [empty] at dropped
        cases dropped
      rw [path, dropFinalEmpty, if_pos dropped, List.length_dropLast] at count
      have := List.length_pos_iff.2 filled
      omega
    · intro name adjacent
      rw [← path] at adjacent
      exact not_opening_of_read adjacent
  · rintro ⟨undotted, ends, apart⟩
    have whole : dropFinalEmpty (tokenPieces p.tokens) = tokenPieces p.tokens :=
      if_neg fun empty => ends ((getLast?_tokenPieces p.tokens).1 empty)
    rw [pieces_joinSegments undotted, whole]
    exact read_tokenPieces apart 0

example :
    (PropertyPath.parse (PropertyPath.mk [.member "Array", .member "data[0]"]).text).toOption =
      some (PropertyPath.mk [.element 0]) := by
  decide +kernel

end ObjectGraph
