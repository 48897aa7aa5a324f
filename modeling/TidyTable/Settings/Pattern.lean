import TidyTable.Text.Alphanumeric
import TidyTable.Toml.Text

/-!
# Patterns of values

A log filter may name a value by a pattern, a regular expression. All that matters here is whether a
text is one: its groups and sets are closed, every repetition has something to repeat, and every
backslash means something. The text has no comma and no closing brace, since both end the value in a
filter, so a repetition that counts is never complete. The edge of a word is not supported.

Options are checked, not followed. Two of them would change what comes behind them: under `x` space
is skipped and a number sign begins a comment, and behind `-u` an escape may stand for a byte that
is no text. A pattern that relies on one of these is judged as if the option were not there.
-/

namespace TidyTable.Settings.Pattern

/-! ## Escapes -/

/-- What a backslash with the characters behind it stands for. -/
inductive Escape where
  | character (c : Char)
  /-- One of many characters. -/
  | set
  /-- A place between characters. -/
  | place
deriving DecidableEq, Repr

/-- The letters that stand for a control character. -/
def controls : List (Char × Char) :=
  [('a', '\x07'), ('f', '\x0c'), ('t', '\t'), ('n', '\n'), ('r', '\r'), ('v', '\x0b')]

/-- What stands behind a backslash. -/
def escape? : List Char → Option (Escape × List Char)
  | [] => none
  | c :: cs =>
    if c == 'x' || c == 'u' || c == 'U' then
      let digits := if c == 'x' then 2 else if c == 'u' then 4 else 8
      (Toml.coded? digits cs).map fun (c, rest) => (.character c, rest)
    else if c == 'p' || c == 'P' then
      match cs with
      | kind :: rest => if "CLMNPSZ".toList.contains kind.toUpper then some (.set, rest) else none
      | [] => none
    else if "dDsSwW".toList.contains c then some (.set, cs)
    else if c == 'A' || c == 'z' then some (.place, cs)
    else
      match controls.lookup c with
      | some control => some (.character control, cs)
      | none =>
        if c.isAlphanum || c == '<' || c == '>' || 0x80 ≤ c.toNat then none
        else some (.character c, cs)

/-! ## Sets -/

/-- A member of a set between brackets. -/
def member? : List Char → Option (Escape × List Char)
  | [] => none
  | '\\' :: cs => escape? cs
  | c :: cs => some (.character c, cs)

/-- What follows a member of a set, or a range of members whose ends are in order. -/
def afterRange? (cs : List Char) : Option (List Char) := do
  let (low, rest) ← member? cs
  let single := if low == .place then none else some rest
  match rest with
  | '-' :: ']' :: _ | '-' :: '-' :: _ => single
  | '-' :: more =>
    let (high, rest) ← member? more
    match low, high with
    | .character low, .character high => if low ≤ high then some rest else none
    | _, _ => none
  | _ => single

/-- The names of classes that stand between colons in a set. -/
def classNames : List String :=
  ["alnum", "alpha", "ascii", "blank", "cntrl", "digit", "graph", "lower", "print", "punct",
    "space", "upper", "word", "xdigit"]

/-- What follows a class behind its opening bracket. -/
def afterClass? : List Char → Option (List Char)
  | ':' :: cs =>
    let cs := if cs.head? == some '^' then cs.tail else cs
    let name := cs.takeWhile (· != ':')
    match cs.drop name.length with
    | ':' :: ']' :: rest => if classNames.contains (String.ofList name) then some rest else none
    | _ => none
  | _ => none

/-- What follows the opening bracket of a set: a circumflex turns the set around, and hyphens, or
one closing bracket, are members. -/
def afterOpening (cs : List Char) : List Char :=
  let cs := if cs.head? == some '^' then cs.tail else cs
  let rest := cs.dropWhile (· == '-')
  if rest.length == cs.length && rest.head? == some ']' then rest.tail else rest

/-- What follows a set that has so many brackets open, of at most so many characters. -/
def afterSet? : Nat → Nat → List Char → Option (List Char)
  | 0, _, _ => none
  | n + 1, brackets, cs =>
    match cs with
    | [] => none
    | ']' :: rest => if brackets ≤ 1 then some rest else afterSet? n (brackets - 1) rest
    | '[' :: rest =>
      match afterClass? rest with
      | some rest => afterSet? n brackets rest
      | none => afterSet? n (brackets + 1) (afterOpening rest)
    | '&' :: '&' :: rest | '-' :: '-' :: rest | '~' :: '~' :: rest => afterSet? n brackets rest
    | cs =>
      match afterRange? cs with
      | some rest => afterSet? n brackets rest
      | none => none

/-! ## Groups -/

/-- Whether a text can name a group: a letter or an underscore begins it. -/
def isGroupName : List Char → Bool
  | [] => false
  | c :: cs =>
    (c == '_' || Text.isAlphabetic c)
      && cs.all fun c => Text.isAlphanumeric c || ['_', '.', '[', ']'].contains c

/-- Whether letters switch options: each stands at most once, and behind a hyphen stands at least
one. -/
def areOptions (cs : List Char) : Bool :=
  cs.all "imsUuxR-".toList.contains && (cs.eraseDups.length == cs.length)
    && cs.getLast? != some '-'

/-- How a group begins. -/
inductive Opening where
  | group (name : Option (List Char))
  | options
deriving DecidableEq, Repr

/-- What stands behind an opening parenthesis. -/
def opening? (cs : List Char) : Option (Opening × List Char) :=
  let named := fun (cs : List Char) =>
    let name := cs.takeWhile (· != '>')
    if isGroupName name && name.length < cs.length then
      some (.group (some name), cs.drop (name.length + 1))
    else none
  match cs with
  | '?' :: 'P' :: '<' :: rest => named rest
  | '?' :: '<' :: rest => named rest
  | '?' :: rest =>
    let letters := rest.takeWhile fun c => c != ':' && c != ')'
    if areOptions letters then
      match rest.drop letters.length with
      | ':' :: rest => some (.group none, rest)
      | ')' :: rest => if letters.isEmpty then none else some (.options, rest)
      | _ => none
    else none
  | rest => some (.group none, rest)

/-! ## Patterns -/

/-- Where in a pattern a reader is. -/
structure State where
  /-- How many groups are open. -/
  depth : Nat := 0
  /-- Whether something stands here that can be repeated. -/
  ready : Bool := false
  /-- The names of the groups so far. -/
  names : List (List Char) := []

/-- Whether what is left of a pattern completes it, for at most so many characters. -/
def completes : Nat → State → List Char → Bool
  | 0, _, _ => false
  | n + 1, s, cs =>
    match cs with
    | [] => s.depth == 0
    | '(' :: rest =>
      match opening? rest with
      | some (.options, rest) => completes n { s with ready := false } rest
      | some (.group none, rest) => completes n { s with depth := s.depth + 1, ready := false } rest
      | some (.group (some name), rest) =>
        !s.names.contains name
          && completes n { depth := s.depth + 1, ready := false, names := name :: s.names } rest
      | none => false
    | ')' :: rest => 0 < s.depth && completes n { s with depth := s.depth - 1, ready := true } rest
    | '|' :: rest => completes n { s with ready := false } rest
    | '*' :: rest | '+' :: rest | '?' :: rest => s.ready && completes n s rest
    | '\x7b' :: _ => false
    | '[' :: rest =>
      match afterSet? (rest.length + 1) 1 (afterOpening rest) with
      | some rest => completes n { s with ready := true } rest
      | none => false
    | '\\' :: rest =>
      match escape? rest with
      | some (_, rest) => completes n { s with ready := true } rest
      | none => false
    | _ :: rest => completes n { s with ready := true } rest

/-- Whether a text is a pattern. -/
def isPattern (cs : List Char) : Bool := completes (cs.length + 1) {} cs

end TidyTable.Settings.Pattern
