import TidyTable.Decimal.Reader
import TidyTable.Json.Basic

/-!
# Reading JSON

The strict grammar: no comment, no trailing comma, no leading zero, no unpaired surrogate, nothing
behind the value but space. Containers may nest `maxDepth` levels deep.

An integer that a word holds keeps its digits. Any other number becomes a double, and not always the
closest one: as many digits as a word holds are kept as the coefficient, the coefficient is rounded
to a double, and that double is multiplied with or divided by one power of ten, which rounds once
more. A number is refused if the product is infinite, which can happen just below the largest double
as well.

Each function takes the characters that are left and gives back what it read and the rest. Of two
calls in a row at least one reads a character, so fuel of twice the length of the text never runs
out before the text does.
-/

namespace TidyTable.Json

/-- How many arrays and objects may stand inside one another. -/
def maxDepth : Nat := 127

/-- The four characters that may stand between tokens. -/
def isSpace (c : Char) : Bool := c == ' ' || c == '\n' || c == '\t' || c == '\r'

/-- Drops space in front. -/
def skipSpace (cs : List Char) : List Char := cs.dropWhile isSpace

/-! ## Strings -/

/-- The value of a hexadecimal digit. -/
def hexValue? (c : Char) : Option Nat :=
  if '0' ≤ c ∧ c ≤ '9' then some (c.toNat - 48)
  else if 'a' ≤ c ∧ c ≤ 'f' then some (c.toNat - 87)
  else if 'A' ≤ c ∧ c ≤ 'F' then some (c.toNat - 55)
  else none

/-- The value of four hexadecimal digits. -/
def hexUnit? (a b c d : Char) : Option Nat := do
  let a ← hexValue? a
  let b ← hexValue? b
  let c ← hexValue? c
  let d ← hexValue? d
  some (((a * 16 + b) * 16 + c) * 16 + d)

/-- The character behind a backslash, if one letter stands for it. -/
def simpleEscape? (c : Char) : Option Char :=
  if c = '\x22' ∨ c = '\\' ∨ c = '/' then some c
  else if c = 'b' then some '\x08'
  else if c = 'f' then some '\x0c'
  else if c = 'n' then some '\n'
  else if c = 'r' then some '\r'
  else if c = 't' then some '\t'
  else none

/-- First half of a surrogate pair. -/
def isHighSurrogate (n : Nat) : Bool := 0xd800 ≤ n && n < 0xdc00

/-- Second half of a surrogate pair. -/
def isLowSurrogate (n : Nat) : Bool := 0xdc00 ≤ n && n < 0xe000

/-- The character that a surrogate pair stands for. -/
def pairChar (high low : Nat) : Char :=
  Char.ofNat (0x10000 + (high - 0xd800) * 0x400 + (low - 0xdc00))

/-- Reads a string behind its opening quote. -/
def readString? : List Char → Option (List Char × List Char)
  | [] => none
  | '\\' :: 'u' :: a :: b :: c :: d :: rest =>
    match hexUnit? a b c d with
    | none => none
    | some unit =>
      if isHighSurrogate unit then
        match rest with
        | '\\' :: 'u' :: e :: f :: g :: h :: rest =>
          match hexUnit? e f g h with
          | none => none
          | some low =>
            if isLowSurrogate low then
              (readString? rest).map fun (s, r) => (pairChar unit low :: s, r)
            else none
        | _ => none
      else if isLowSurrogate unit then none
      else (readString? rest).map fun (s, r) => (Char.ofNat unit :: s, r)
  | '\\' :: c :: rest =>
    match simpleEscape? c with
    | none => none
    | some c => (readString? rest).map fun (s, r) => (c :: s, r)
  | c :: rest =>
    if c = '\x22' then some ([], rest)
    else if c = '\\' ∨ c.toNat < 0x20 then none
    else (readString? rest).map fun (s, r) => (c :: s, r)

/-! ## Numbers -/

/-- The smallest integer that keeps its digits: the smallest signed word. -/
def minInteger : Int := -0x8000000000000000

/-- The largest integer that keeps its digits: the largest unsigned word. -/
def maxInteger : Int := 0xffffffffffffffff

/-- The largest coefficient that is kept of the digits of a decimal: the largest unsigned word. -/
def maxCoefficient : Nat := 0xffffffffffffffff

/-- The largest power of ten that a double can be multiplied with in one step. -/
def maxPower : Nat := 308

/-- The double closest to a power of ten. -/
def powerOfTen (power : Nat) : Float := Decimal.ofDecimal false 1 power

/-- Writes digits behind those of a coefficient for as long as a word holds the result. The digits
from the first one on that does not fit are left over. -/
def takeDigits (coefficient : Nat) : List Char → Nat × List Char
  | [] => (coefficient, [])
  | c :: cs =>
    let next := coefficient * 10 + (c.toNat - '0'.toNat)
    if next ≤ maxCoefficient then takeDigits next cs else (coefficient, c :: cs)

/-- A double divided by a power of ten, with several divisions if the power is too large for one. -/
def divideByPower (x : Float) (power : Nat) : Float :=
  if power ≤ maxPower then x / powerOfTen power
  else if x == 0 then x
  else divideByPower (x / powerOfTen maxPower) (power - maxPower)
termination_by power
decreasing_by
  unfold maxPower at *
  omega

/-- A double multiplied with a power of ten, unless the product is too large for one. -/
def multiplyByPower? (x : Float) (power : Nat) : Option Float :=
  if power ≤ maxPower then
    let y := x * powerOfTen power
    if (Decimal.Binary.ofFloat y).isFinite then some y else none
  else if x == 0 then some x
  else none

/-- The double for a coefficient and a power of ten, unless it is too large for one. -/
def scaled? (negative : Bool) (coefficient : Nat) (power : Int) : Option Number :=
  let x := Decimal.nearest coefficient
  let magnitude? :=
    if power < 0 then some (divideByPower x power.natAbs) else multiplyByPower? x power.toNat
  magnitude?.map fun y => .float (if negative then -y else y)

/-- The double for the digits before and behind a point and the power of ten behind them. A digit
before the point that the coefficient leaves out still counts as a place, one behind it does not. -/
def decimalNumber? (negative : Bool) (ds fraction : List Char) (power : Int) : Option Number :=
  let (whole, dropped) := takeDigits 0 ds
  let (coefficient, ignored) := takeDigits whole fraction
  scaled? negative coefficient (power + dropped.length - (fraction.length - ignored.length))

/-- The number of an integer literal. A negative zero is a double, because only a double has one. -/
def integerNumber? (negative : Bool) (ds : List Char) : Option Number :=
  let n := Decimal.value ds
  let i : Int := if negative then -n else n
  if (negative && n == 0) || i < minInteger || maxInteger < i then decimalNumber? negative ds [] 0
  else some (.integer i)

/-- Reads the digits behind a point, at least one. -/
def readFraction? : List Char → Option (List Char × List Char)
  | '.' :: cs =>
    let ds := cs.takeWhile Char.isDigit
    if ds.isEmpty then none else some (ds, cs.dropWhile Char.isDigit)
  | cs => some ([], cs)

/-- Reads an exponent if one follows; the result says whether one did. -/
def readPower? (cs : List Char) : Option (Option Int × List Char) :=
  match cs with
  | [] => some (none, [])
  | c :: rest =>
    if c = 'e' ∨ c = 'E' then
      let (negative, rest) := Decimal.readSign rest
      let ds := rest.takeWhile Char.isDigit
      if ds.isEmpty then none
      else
        let n : Int := Decimal.value ds
        some (some (if negative then -n else n), rest.dropWhile Char.isDigit)
    else some (none, cs)

/-- Reads an unsigned number. A zero in front of other digits is refused. -/
def readUnsigned? (negative : Bool) (cs : List Char) : Option (Number × List Char) :=
  let ds := cs.takeWhile Char.isDigit
  let rest := cs.dropWhile Char.isDigit
  if ds.isEmpty || (ds.head? == some '0' && 1 < ds.length) then none
  else do
    let (fraction, rest) ← readFraction? rest
    let (power?, rest) ← readPower? rest
    let number ←
      if fraction.isEmpty && power?.isNone then integerNumber? negative ds
      else decimalNumber? negative ds fraction (power?.getD 0)
    some (number, rest)

/-- Reads a number. -/
def readNumber? : List Char → Option (Number × List Char)
  | '-' :: cs => readUnsigned? true cs
  | cs => readUnsigned? false cs

/-! ## Values -/

mutual

/-- Reads a value, with space allowed in front. -/
def readValue? (fuel depth : Nat) (cs : List Char) : Option (Json × List Char) :=
  match fuel with
  | 0 => none
  | fuel + 1 =>
    match skipSpace cs with
    | [] => none
    | 'n' :: 'u' :: 'l' :: 'l' :: rest => some (.null, rest)
    | 't' :: 'r' :: 'u' :: 'e' :: rest => some (.bool true, rest)
    | 'f' :: 'a' :: 'l' :: 's' :: 'e' :: rest => some (.bool false, rest)
    | '\x22' :: rest => (readString? rest).map fun (s, r) => (.string (String.ofList s), r)
    | '[' :: rest =>
      match depth with
      | 0 => none
      | depth + 1 =>
        match skipSpace rest with
        | ']' :: rest => some (.array [], rest)
        | rest => (readItems? fuel depth rest).map fun (xs, r) => (.array xs, r)
    | '\x7b' :: rest =>
      match depth with
      | 0 => none
      | depth + 1 =>
        match skipSpace rest with
        | '\x7d' :: rest => some (.object [], rest)
        | rest =>
          (readFields? fuel depth rest).map fun (xs, r) => (.object (Record.ofPairs xs), r)
    | rest => (readNumber? rest).map fun (n, r) => (.number n, r)

/-- Reads the items of an array up to its closing bracket, at least one. -/
def readItems? (fuel depth : Nat) (cs : List Char) : Option (List Json × List Char) :=
  match fuel with
  | 0 => none
  | fuel + 1 => do
    let (x, rest) ← readValue? fuel depth cs
    match skipSpace rest with
    | ',' :: rest =>
      let (xs, rest) ← readItems? fuel depth rest
      some (x :: xs, rest)
    | ']' :: rest => some ([x], rest)
    | _ => none

/-- Reads the fields of an object up to its closing brace, at least one. -/
def readFields? (fuel depth : Nat) (cs : List Char) : Option (List (String × Json) × List Char) :=
  match fuel with
  | 0 => none
  | fuel + 1 =>
    match skipSpace cs with
    | '\x22' :: rest => do
      let (key, rest) ← readString? rest
      match skipSpace rest with
      | ':' :: rest =>
        let (x, rest) ← readValue? fuel depth rest
        match skipSpace rest with
        | ',' :: rest =>
          let (xs, rest) ← readFields? fuel depth rest
          some ((String.ofList key, x) :: xs, rest)
        | '\x7d' :: rest => some ([(String.ofList key, x)], rest)
        | _ => none
      | _ => none
    | _ => none

end

/-- Reads a text that holds one value and nothing else. -/
def parse? (cs : List Char) : Option Json :=
  match readValue? (2 * cs.length + 2) maxDepth cs with
  | some (j, rest) => if (skipSpace rest).isEmpty then some j else none
  | none => none

end TidyTable.Json
