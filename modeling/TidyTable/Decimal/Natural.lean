/-!
# Natural numbers in decimal

Digits are ASCII, the most significant one first, with no zero in front of another digit. Reading
is more lenient than writing: it takes zeros in front and one plus sign, which is why a text that
reads as `n` need not be the text that is written for `n`.
-/

namespace TidyTable.Decimal

/-- The digits of a natural number. -/
def digits (n : Nat) : List Char := Nat.toDigits 10 n

/-- The digits of an integer, behind a minus sign if it is negative. -/
def integer (i : Int) : List Char :=
  if i < 0 then '-' :: digits i.natAbs else digits i.natAbs

/-- The number that a run of digits stands for. -/
def value (cs : List Char) : Nat := Nat.ofDigitChars 10 cs 0

/-- Reads one or more digits and nothing else. -/
def readDigits? (cs : List Char) : Option Nat :=
  if !cs.isEmpty && cs.all Char.isDigit then some (value cs) else none

/-- Reads a natural number: digits, with one plus sign allowed in front. -/
def readNatural? : List Char → Option Nat
  | '+' :: cs => readDigits? cs
  | cs => readDigits? cs

/-- The text of a natural number. -/
def naturalText (n : Nat) : String := String.ofList (digits n)

/-- The text of an integer. -/
def integerText (i : Int) : String := String.ofList (integer i)

@[simp] theorem value_digits (n : Nat) : value (digits n) = n :=
  Nat.ofDigitChars_toDigits (by decide) (by decide)

/-- What is written for a number reads back as that number. -/
@[simp] theorem readDigits?_digits (n : Nat) : readDigits? (digits n) = some n := by
  have h1 : (digits n).isEmpty = false := by
    simp [digits, Nat.toDigits_ne_nil]
  have h2 : (digits n).all Char.isDigit = true := by
    rw [List.all_eq_true]
    intro c hc
    exact Nat.isDigit_of_mem_toDigits (by decide) (by decide) hc
  simp [readDigits?, h1, h2]

end TidyTable.Decimal
