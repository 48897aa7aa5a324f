import TidyTable.Decimal.Shortest

/-!
# How a double is written

All texts of a double have the same digits, the fewest that read back. They differ in where the
scientific form begins, in whether a whole number keeps a decimal place, and in what stands for
the values that have no digits. A `Layout` holds these decisions; the modules that write doubles
each have one.
-/

namespace TidyTable.Decimal

/-- The decisions of one output format. The functions take the power of ten of the first digit. -/
structure Layout where
  /-- Whether a number of this size is written without an exponent. -/
  positional : Int → Bool
  /-- Whether a whole number of this size, written without an exponent, ends in `.0`. -/
  pointZero : Int → Bool
  /-- Which of two equally close decimals is taken. -/
  tie : Tie
  /-- What is written for a missing number. -/
  nan : List Char

/-- Digits with the point after as many of them as `places` says. -/
def placePoint (ds : List Char) (places : Int) (pointZero : Bool) : List Char :=
  if ds.length ≤ places then
    ds ++ List.replicate (places.toNat - ds.length) '0' ++ (if pointZero then ['.', '0'] else [])
  else if 0 < places then
    ds.take places.toNat ++ '.' :: ds.drop places.toNat
  else
    '0' :: '.' :: (List.replicate (-places).toNat '0' ++ ds)

/-- Digits in scientific form, with a sign on the exponent. -/
def scientific (ds : List Char) (power : Int) : List Char :=
  let head := match ds with
    | [] => []
    | [d] => [d]
    | d :: rest => d :: '.' :: rest
  head ++ 'e' :: (if power < 0 then '-' else '+') :: digits power.natAbs

namespace Layout

/-- The text of a decimal. -/
def decimal (layout : Layout) (d : Scaled) : List Char :=
  let ds := digits d.coefficient
  let power := ds.length - 1 + d.exponent
  if layout.positional power then placePoint ds (power + 1) (layout.pointZero power)
  else scientific ds power

/-- The text of a double. -/
def render (layout : Layout) (x : Float) : List Char :=
  match Binary.ofFloat x with
  | .nan => layout.nan
  | .infinite negative => (if negative then ['-'] else []) ++ ['i', 'n', 'f']
  | .finite negative m e =>
    (if negative then ['-'] else []) ++ layout.decimal (shortest layout.tie m e)

/-- Plain digits: never an exponent, and nothing after the point that is not needed. -/
def plain : Layout where
  positional _ := true
  pointZero _ := false
  tie := .up
  nan := ['N', 'a', 'N']

end Layout

/-- A double in plain digits. -/
def plainText (x : Float) : String := String.ofList (Layout.plain.render x)

end TidyTable.Decimal
