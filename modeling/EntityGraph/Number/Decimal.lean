/-!
# Decimal integers

Writing integers in base ten and reading them back. A text is an optional sign and at least one
ASCII digit; a minus sign is read only where negative numbers are allowed.
-/

namespace EntityGraph.Number

/-- The decimal digits of a natural number, most significant first. -/
def digits (n : Nat) : List Char := Nat.toDigits 10 n

/-- An integer in base ten, with a minus sign if it is negative. -/
def decimal (n : Int) : List Char :=
  match n with
  | .ofNat n => digits n
  | .negSucc n => '-' :: digits (n + 1)

/-- A non-empty run of digits as a number. -/
def readDigits? (cs : List Char) : Option Nat :=
  if !cs.isEmpty && cs.all Char.isDigit then some (Nat.ofDigitChars 10 cs 0) else none

/-- An integer with an optional sign; `signed` says whether a minus sign may stand. -/
def readInt? (signed : Bool) : List Char → Option Int
  | '+' :: cs => (readDigits? cs).map Int.ofNat
  | '-' :: cs => if signed then (readDigits? cs).map fun n => -Int.ofNat n else none
  | cs => (readDigits? cs).map Int.ofNat

/-- Digits of a number with zeros in front, `width` characters or more. -/
def padded (width n : Nat) : List Char :=
  List.replicate (width - (digits n).length) '0' ++ digits n

/-! ## Laws -/

theorem digits_ne_nil (n : Nat) : digits n ≠ [] := by
  intro h
  have := congrArg List.length h
  simp only [digits, List.length_nil] at this
  exact absurd this (Nat.ne_of_gt Nat.length_toDigits_pos)

theorem isDigit_of_mem_digits {n : Nat} {c : Char} (h : c ∈ digits n) : c.isDigit = true :=
  Nat.isDigit_of_mem_toDigits (by decide) (by decide) h

theorem readDigits?_digits (n : Nat) : readDigits? (digits n) = some n := by
  have hall : (digits n).all Char.isDigit = true :=
    List.all_eq_true.2 fun _ hc => isDigit_of_mem_digits hc
  have hne : (digits n).isEmpty = false := by simp [digits_ne_nil]
  rw [readDigits?, hall, hne]
  simp [digits, Nat.ofDigitChars_toDigits]

end EntityGraph.Number
