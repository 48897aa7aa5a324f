import TidyTable.Decimal.Binary

/-!
# Reading a double

The decimal grammar of a stand-alone number: a sign, digits around an optional point with at least
one digit on either side of it, an optional exponent, or one of the words for infinity and for a
missing number in any case. There is no white space and no digit separator. The result is the
double closest to the decimal.
-/

namespace TidyTable.Decimal

/-- A sign in front of a number: whether it is a minus, and what follows. -/
def readSign : List Char → Bool × List Char
  | '-' :: cs => (true, cs)
  | '+' :: cs => (false, cs)
  | cs => (false, cs)

/-- Reads the exponent behind the digits of a number; nothing at all is exponent zero. -/
def readExponent? : List Char → Option Int
  | [] => some 0
  | c :: cs =>
    if c = 'e' ∨ c = 'E' then
      let (negative, ds) := readSign cs
      (readDigits? ds).map fun n => if negative then -(n : Int) else n
    else none

/-- Reads unsigned digits with an optional point and exponent, as coefficient and power of ten. -/
def readDecimal? (cs : List Char) : Option (Nat × Int) :=
  let before := cs.takeWhile Char.isDigit
  let rest := cs.dropWhile Char.isDigit
  let (after, rest) := match rest with
    | '.' :: r => (r.takeWhile Char.isDigit, r.dropWhile Char.isDigit)
    | r => ([], r)
  if before.isEmpty && after.isEmpty then none
  else (readExponent? rest).map fun e => (value (before ++ after), e - after.length)

private def infinity : Float := ofDecimal false 1 400

private def missing : Float := infinity - infinity

/-- Reads a double; the whole text must be a number. -/
def readFloat? (cs : List Char) : Option Float :=
  let (negative, rest) := readSign cs
  let word := rest.map Char.toLower
  if word = ['i', 'n', 'f'] ∨ word = ['i', 'n', 'f', 'i', 'n', 'i', 't', 'y'] then
    some (if negative then -infinity else infinity)
  else if word = ['n', 'a', 'n'] then some missing
  else (readDecimal? rest).map fun (c, e) => ofDecimal negative c e

end TidyTable.Decimal
