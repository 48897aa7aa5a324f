import TidyTable.Decimal.Binary

/-!
# The fewest digits that read back

A finite double is the nearest double to every real number in an interval around it, half-way to
each neighbour; the ends belong to it if its mantissa is even. The text of a double needs only so
many digits that the decimal lies in that interval.

On the grid of all multiples of `10 ^ p` the two candidates are the multiples next to the double,
below and above: if any multiple lies in the interval then one of these does. So the grids are
tried from the coarsest, one digit, to the finest, seventeen digits, and the first with a hit wins.
Seventeen always hit, because the interval is then wider than the grid.
-/

namespace TidyTable.Decimal

/-- The number `coefficient * 10 ^ exponent`. -/
structure Scaled where
  coefficient : Nat
  exponent : Int
deriving DecidableEq, Repr

namespace Scaled

/-- Removes zeros from the end of the coefficient. -/
def strip (fuel : Nat) (d : Scaled) : Scaled :=
  match fuel with
  | 0 => d
  | fuel + 1 =>
    if d.coefficient ≠ 0 ∧ d.coefficient % 10 = 0 then
      strip fuel ⟨d.coefficient / 10, d.exponent + 1⟩
    else d

end Scaled

/-- Which of two decimals to take when both are equally close. -/
inductive Tie where
  | up
  | even
deriving DecidableEq, Repr

/-- A double on the line of decimals: value and interval over one denominator. -/
structure Interval where
  value : Nat
  low : Nat
  high : Nat
  denominator : Nat
  closed : Bool
deriving Repr

/-- The interval of reals that round to `mantissa * 2 ^ exponent`. Below a power of two the doubles
lie twice as close, except at the bottom of the range. -/
def Interval.ofBinary (mantissa : Nat) (exponent : Int) : Interval :=
  let unit := Nat.pow 2 exponent.toNat
  -- the least mantissa of a double that has all its bits
  let below := if mantissa = 0x10000000000000 ∧ -1074 < exponent then 1 else 2
  { value := 4 * mantissa * unit
    low := (4 * mantissa - below) * unit
    high := (4 * mantissa + 2) * unit
    denominator := 4 * Nat.pow 2 (-exponent).toNat
    closed := mantissa % 2 = 0 }

/-- The same interval measured in units of `10 ^ p`. -/
def Interval.scale (i : Interval) (p : Int) : Interval :=
  let up := Nat.pow 10 (-p).toNat
  { i with
    value := i.value * up
    low := i.low * up
    high := i.high * up
    denominator := i.denominator * Nat.pow 10 p.toNat }

/-- Whether the whole number `c` lies in the interval. -/
def Interval.holds (i : Interval) (c : Nat) : Bool :=
  let n := c * i.denominator
  if i.closed then i.low ≤ n && n ≤ i.high else i.low < n && n < i.high

/-- The whole number in the interval that is closest to the value, if there is one. -/
def Interval.closest? (i : Interval) (tie : Tie) : Option Nat :=
  let c := i.value / i.denominator
  match i.holds c, i.holds (c + 1) with
  | true, false => some c
  | false, true => some (c + 1)
  | false, false => none
  | true, true =>
    -- both distances are measured in units of the same denominator
    let down := i.value - c * i.denominator
    let up := (c + 1) * i.denominator - i.value
    if down < up then some c
    else if up < down then some (c + 1)
    else match tie with
      | .up => some (c + 1)
      | .even => some (if c % 2 = 0 then c else c + 1)

/-- The power of ten of the first digit of `n / d`. The shift by four hundred places makes the
quotient a whole number for every double. -/
def leadingPower (n d : Nat) : Int :=
  (Nat.toDigits 10 (n * Nat.pow 10 400 / d)).length - 1 - 400

/-- Tries the grids from `10 ^ p` downwards. -/
def firstHit (i : Interval) (tie : Tie) (p : Int) : Nat → Scaled
  | 0 => ⟨(i.scale p).value / (i.scale p).denominator, p⟩
  | n + 1 =>
    match (i.scale p).closest? tie with
    | some c => ⟨c, p⟩
    | none => firstHit i tie (p - 1) n

/-- The shortest decimal that reads back as `mantissa * 2 ^ exponent`. -/
def shortest (tie : Tie) (mantissa : Nat) (exponent : Int) : Scaled :=
  if mantissa = 0 then ⟨0, 0⟩
  else
    let i := Interval.ofBinary mantissa exponent
    (firstHit i tie (leadingPower i.value i.denominator) 17).strip 20

end TidyTable.Decimal
