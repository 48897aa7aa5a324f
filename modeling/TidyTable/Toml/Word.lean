import TidyTable.Decimal.Reader
import TidyTable.Toml.Basic
import TidyTable.Toml.Text

/-!
# Words of TOML

A value without quotes or brackets is one word: a truth value, a number, or a date or time. Numbers
may have an underline between any two digits. A date and a time may also have a space between them,
and then they are two words and one value.
-/

namespace TidyTable.Toml

/-- Whether a character can stand in a word. -/
def isWordChar (c : Char) : Bool :=
  c.isAlphanum || c == '+' || c == '-' || c == '.' || c == '_' || c == ':'

/-! ## Numbers -/

/-- Digits without the underlines between them. -/
def ungrouped? (isDigit : Char → Bool) : List Char → Option (List Char)
  | [] => none
  | [c] => if isDigit c then some [c] else none
  | c :: '_' :: cs => if isDigit c then (ungrouped? isDigit cs).map (c :: ·) else none
  | c :: cs => if isDigit c then (ungrouped? isDigit cs).map (c :: ·) else none

/-- Decimal digits that do not begin with a needless zero. -/
def decimalDigits? (cs : List Char) : Option (List Char) :=
  match ungrouped? Char.isDigit cs with
  | some ['0'] => some ['0']
  | some ('0' :: _) => none
  | found => found

/-- An integer that fits into a signed word. -/
def bounded? (i : Int) : Option Int :=
  if Int64.minValue.toInt ≤ i ∧ i ≤ Int64.maxValue.toInt then some i else none

/-- Digits of a base that is a power of two. -/
def based? (base : Nat) (cs : List Char) : Option Int := do
  let digits ← ungrouped? (fun c => ((Html.Reference.hexDigit? c).filter (· < base)).isSome) cs
  bounded? (digits.foldl (fun n c => n * base + (Html.Reference.hexDigit? c).getD 0) 0 : Nat)

/-- An integer. -/
def integer? (cs : List Char) : Option Int :=
  match cs with
  | '0' :: 'x' :: digits => based? 16 digits
  | '0' :: 'o' :: digits => based? 8 digits
  | '0' :: 'b' :: digits => based? 2 digits
  | cs =>
    let (negative, digits) := Decimal.readSign cs
    (decimalDigits? digits).bind fun ds =>
      let n : Int := Decimal.value ds
      bounded? (if negative then -n else n)

/-- The fraction of a number and what follows it; the point needs a digit behind it. -/
def fraction? : List Char → Option (List Char × List Char)
  | '.' :: cs =>
    let digits := cs.takeWhile fun c => c.isDigit || c == '_'
    (ungrouped? Char.isDigit digits).map fun ds => ('.' :: ds, cs.drop digits.length)
  | cs => some ([], cs)

/-- The exponent of a number, which must be all that is left. -/
def exponent? : List Char → Option (List Char)
  | [] => some []
  | c :: cs =>
    if c == 'e' || c == 'E' then
      let sign := cs.takeWhile fun c => c == '+' || c == '-'
      if sign.length ≤ 1 then
        (ungrouped? Char.isDigit (cs.drop sign.length)).map fun ds => 'e' :: sign ++ ds
      else none
    else none

/-- A number with a fraction or an exponent, or a word for one that is no ordinary number. -/
def float? (cs : List Char) : Option Float :=
  let (_, behind) := Decimal.readSign cs
  let sign := cs.take (cs.length - behind.length)
  if behind == "inf".toList || behind == "nan".toList then Decimal.readFloat? cs
  else do
    let whole := behind.takeWhile fun c => c.isDigit || c == '_'
    let digits ← decimalDigits? whole
    let (fraction, rest) ← fraction? (behind.drop whole.length)
    let exponent ← exponent? rest
    if fraction.isEmpty && exponent.isEmpty then none
    else
      let x ← Decimal.readFloat? (sign ++ digits ++ fraction ++ exponent)
      match Decimal.Binary.ofFloat x with
      | .finite .. => some x
      | _ => none

/-! ## Dates and times -/

/-- A number of so many digits within bounds, and what follows it. -/
def field? (digits least largest : Nat) (cs : List Char) : Option (Nat × List Char) :=
  let ds := cs.take digits
  let n := Decimal.value ds
  if ds.length == digits && ds.all Char.isDigit && least ≤ n && n ≤ largest then
    some (n, cs.drop digits)
  else none

/-- What follows a character. -/
def behind? (mark : Char) : List Char → Option (List Char)
  | c :: cs => if c == mark then some cs else none
  | [] => none

/-- The number of days of a month. -/
def daysIn (year month : Nat) : Nat :=
  if month == 2 then
    if (year % 4 == 0 && year % 100 != 0) || year % 400 == 0 then 29 else 28
  else if [4, 6, 9, 11].contains month then 30
  else 31

/-- What follows a date. -/
def afterDate? (cs : List Char) : Option (List Char) := do
  let (year, cs) ← field? 4 0 9999 cs
  let (month, cs) ← field? 2 1 12 (← behind? '-' cs)
  let (_, cs) ← field? 2 1 (daysIn year month) (← behind? '-' cs)
  some cs

/-- What follows a time. -/
def afterTime? (cs : List Char) : Option (List Char) := do
  let (_, cs) ← field? 2 0 23 cs
  let (_, cs) ← field? 2 0 59 (← behind? ':' cs)
  let (_, cs) ← field? 2 0 60 (← behind? ':' cs)
  match cs with
  | '.' :: rest =>
    if (rest.takeWhile Char.isDigit).isEmpty then none else some (rest.dropWhile Char.isDigit)
  | cs => some cs

/-- Whether this is nothing, or how far a time is from universal time. -/
def isOffset (cs : List Char) : Bool :=
  match cs with
  | [] | ['Z'] | ['z'] => true
  | c :: rest =>
    (c == '+' || c == '-') &&
      (do
        let (_, rest) ← field? 2 0 23 rest
        let (_, rest) ← field? 2 0 59 (← behind? ':' rest)
        some rest) == some []

/-- Whether a word is a time with its distance from universal time, or without one. -/
def isTimeOfDate (cs : List Char) : Bool := (afterTime? cs).any isOffset

/-- Whether a word is a date. -/
def isDate (cs : List Char) : Bool := afterDate? cs == some []

/-- Whether a word is a date, a time, or both. -/
def isMoment (cs : List Char) : Bool :=
  match afterDate? cs with
  | some [] => true
  | some (c :: rest) => (c == 'T' || c == 't') && isTimeOfDate rest
  | none => afterTime? cs == some []

/-! ## Words -/

/-- What a word stands for. -/
def word? (cs : List Char) : Option Item :=
  if cs == "true".toList then some (.flag true)
  else if cs == "false".toList then some (.flag false)
  else
    match integer? cs, float? cs with
    | some i, _ => some (.integer i)
    | none, some x => some (.float x)
    | none, none => if isMoment cs then some .moment else none

/-- A value without quotes or brackets. -/
def plain? (cs : List Char) : Option (Item × List Char) :=
  let word := cs.takeWhile isWordChar
  let rest := cs.dropWhile isWordChar
  match rest with
  | ' ' :: more =>
    let time := more.takeWhile isWordChar
    -- only behind a date can the next word belong to the same value
    if isDate word && isTimeOfDate time then some (.moment, more.drop time.length)
    else (word? word).map (·, rest)
  | rest => (word? word).map (·, rest)

end TidyTable.Toml
