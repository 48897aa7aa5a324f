import TidyTable.Decimal.Reader
import TidyTable.Settings.Pattern
import TidyTable.Text.Blank
import TidyTable.Text.Parts

/-!
# Log filters

A log filter is a list of directives with commas between them. A directive is a level for all
messages, or the target that messages come from with a level behind an equals sign. A target may be
followed by the name of a span in brackets, and the span by one field in braces, with or without a
value. Parts that are empty say nothing.

Space around a directive is not seen when its marks are looked for. But the words between the marks
are cut out of the directive with its space, as if the marks stood at the same places there.
-/

namespace TidyTable.Settings

/-! ## Words -/

/-- The names of the levels. -/
def levelNames : List String := ["off", "error", "warn", "info", "debug", "trace"]

/-- Whether a text is a level: nothing at all, a number up to five, or the name of one in any
case. -/
def isLevel (cs : List Char) : Bool :=
  cs.isEmpty || (Decimal.readNatural? cs).any (· ≤ 5)
    || levelNames.contains (String.ofList (cs.map Char.toLower))

/-- Whether a text is a field, with or without a value; the value is a number or a pattern. What
follows a second equals sign is not looked at. -/
def isField (cs : List Char) : Bool :=
  let value := ((cs.dropWhile (· != '=')).drop 1).takeWhile (· != '=')
  !cs.isEmpty && ((Decimal.readFloat? value).isSome || Pattern.isPattern value)

/-! ## Directives -/

/-- What a reader of a directive is in, and where the word began that it still has to look at. -/
inductive DirectivePart where
  | start
  | target
  | span
  | field (first : Nat)
  | behindField
  | behindSpan
  | level (first : Nat)
deriving DecidableEq, Repr

/-- Whether a directive can begin with a character, a bracket apart. -/
def isTargetStart (c : Char) : Bool := ['-', ':', '_'].contains c || Text.isAlphanumeric c

/-- The part of a directive that the next character leads to, if it may stand there. The character
has the given place. -/
def DirectivePart.next? (directive : List Char) (place : Nat) (c : Char) :
    DirectivePart → Option DirectivePart
  | .start => if c == '[' then some .span else if isTargetStart c then some .target else none
  | .target =>
    if c == '=' then some (.level (place + 1)) else if c == '[' then some .span else some .target
  | .span =>
    if c == ']' then some .behindSpan
    else if c == '\x7b' then some (.field (place + 1))
    else some .span
  | .field first =>
    if c == '\x7d' then
      if isField ((directive.take place).drop first) then some .behindField else none
    else some (.field first)
  | .behindField => if c == ']' then some .behindSpan else none
  | .behindSpan => if c == '=' then some (.level (place + 1)) else none
  | .level first => some (.level first)

/-- Whether a directive may end in a part. -/
def DirectivePart.isLast (directive : List Char) : DirectivePart → Bool
  | .target | .behindSpan => true
  | .level first => isLevel (directive.drop first)
  | _ => false

/-- Whether a text is a directive. -/
def isDirective (directive : List Char) : Bool :=
  -- marks are found at their places without the space, words are cut at the same places with it
  let part := (Text.trim directive).zipIdx.foldlM
    (fun part (c, place) => part.next? directive place c) DirectivePart.start
  part.any (·.isLast directive)

/-! ## Filters -/

/-- Whether a text is a log filter. -/
def isLogFilter (s : String) : Bool :=
  (Text.parts ',' s.toList).all fun part => part.isEmpty || isDirective part

end TidyTable.Settings
