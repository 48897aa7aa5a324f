import TidyTable.Decimal.Natural

/-!
# Doubles as exact numbers

A double-precision number is a sign, a natural mantissa and a power of two, unless it is infinite
or no number at all. Every rule about the decimal text of a double is stated on this view, so that
it is integer arithmetic and nothing rounds twice.
-/

namespace TidyTable.Decimal

/-- What a double stands for: `mantissa * 2 ^ exponent`, negated if `negative`. -/
inductive Binary where
  | nan
  | infinite (negative : Bool)
  | finite (negative : Bool) (mantissa : Nat) (exponent : Int)
deriving DecidableEq, Repr

namespace Binary

private def isNegative : Float.Model.UnpackedFloat.Sign → Bool
  | .negative => true
  | .positive => false

/-- The exact value of a double. -/
def ofFloat (x : Float) : Binary :=
  match x.toModel.unpack with
  | .notANumber => .nan
  | .infinity s => .infinite (isNegative s)
  | .zero s => .finite (isNegative s) 0 (-1074)
  | .finite s m e _ => .finite (isNegative s) m e

/-- The value as an integer, if it is one. -/
def whole? : Binary → Option Int
  | .finite negative m e =>
    let magnitude : Option Nat :=
      if 0 ≤ e then some (m * Nat.pow 2 e.toNat)
      else
        let d := Nat.pow 2 (-e).toNat
        if m % d = 0 then some (m / d) else none
    magnitude.map fun n => if negative then -(n : Int) else n
  | _ => none

/-- Neither infinite nor missing. -/
def isFinite : Binary → Bool
  | .finite .. => true
  | _ => false

end Binary

/-- The value of a double as an integer, if it is one. -/
def whole? (x : Float) : Option Int := (Binary.ofFloat x).whole?

/-- The double closest to an integer, the even one of two that are equally close. -/
def nearest (i : Int) : Float := .ofModel (.ofInt i)

/-- The double closest to `coefficient * 10 ^ exponent`, with a sign of its own so that a negative
zero can be told from zero. -/
def ofDecimal (negative : Bool) (coefficient : Nat) (exponent : Int) : Float :=
  let x := Float.ofScientific coefficient (exponent < 0) exponent.natAbs
  if negative then -x else x

end TidyTable.Decimal
