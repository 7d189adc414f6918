/-!
# Decimal digits

Natural numbers in decimal notation, as lists of characters.

- `digits n` is the shortest notation of `n`: no leading zero, except for `0` itself;
- `value cs` reads a list of digits of any length, leading zeros included;
- `value_digits` says that reading undoes writing;
- `digits_eq_toDigits` says that the notation is that of the library.
-/

namespace ObjectGraph.Decimal

/-- The character of a digit below ten. -/
def digit (d : Nat) : Char := Char.ofNat (48 + d)

/-- The decimal notation of a number, most significant digit first. -/
def digits (n : Nat) : List Char :=
  if n < 10 then [digit n] else digits (n / 10) ++ [digit (n % 10)]
termination_by n

/-- The value that a digit stands for; meaningful for `0` to `9`. -/
def digitValue (c : Char) : Nat := c.toNat - 48

/-- The ten ASCII digits. -/
def isDigit (c : Char) : Bool := '0' ≤ c && c ≤ '9'

/-- The number that a list of digits denotes; the empty list denotes `0`. -/
def value (cs : List Char) : Nat := cs.foldl (fun n c => 10 * n + digitValue c) 0

/-- The decimal notation of a natural number as a string. -/
def text (n : Nat) : String := String.ofList (digits n)

/-- The decimal notation of an integer: a minus sign in front of a negative one. -/
def intText (n : Int) : String :=
  if n < 0 then "-" ++ text n.natAbs else text n.natAbs

/-! ## Reading undoes writing -/

private theorem digit_table :
    ∀ d < 10, digitValue (digit d) = d ∧ isDigit (digit d) = true := by decide

theorem digitValue_digit {d : Nat} (small : d < 10) : digitValue (digit d) = d :=
  (digit_table d small).1

theorem isDigit_digit {d : Nat} (small : d < 10) : isDigit (digit d) = true :=
  (digit_table d small).2

theorem digits_ne_nil (n : Nat) : digits n ≠ [] := by
  rw [digits]
  split <;> simp

/-- A notation holds ASCII digits only. -/
theorem all_isDigit_digits (n : Nat) : (digits n).all isDigit = true := by
  rw [digits]
  split
  · next small => simp [isDigit_digit small]
  · next large =>
    have front := all_isDigit_digits (n / 10)
    rw [List.all_append, front]
    simp [isDigit_digit (Nat.mod_lt n (by omega : 0 < 10))]
termination_by n

theorem value_append (cs : List Char) (c : Char) :
    value (cs ++ [c]) = 10 * value cs + digitValue c := by
  simp [value, List.foldl_append]

/-- The notation of a number denotes it. -/
theorem value_digits (n : Nat) : value (digits n) = n := by
  rw [digits]
  split
  · next small => simp [value, digitValue_digit small]
  · next large =>
    have front := value_digits (n / 10)
    rw [value_append, front, digitValue_digit (Nat.mod_lt n (by omega : 0 < 10))]
    omega
termination_by n

example : value ['0', '0', '7'] = 7 ∧ digits 2048 = ['2', '0', '4', '8'] := by decide +kernel

/-! ## The notation of the library -/

private theorem digit_eq_digitChar : ∀ d < 10, digit d = Nat.digitChar d := by decide

theorem digits_eq_toDigits (n : Nat) : digits n = Nat.toDigits 10 n := by
  rw [digits, Nat.toDigits_eq_if (by omega : 1 < 10)]
  split
  · next small => rw [digit_eq_digitChar n small]
  · next large =>
    rw [digits_eq_toDigits (n / 10), digit_eq_digitChar (n % 10) (Nat.mod_lt n (by omega))]
termination_by n

end ObjectGraph.Decimal
