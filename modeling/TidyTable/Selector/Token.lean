import TidyTable.Html.Characters
import TidyTable.Text.Blank

/-!
# Words of a selector

The text of a selector is cut into words, and what stands between brackets is gathered under them.
A bracket that is never closed is closed by the end of the text; one that was never opened stands as
a word of its own that no rule takes. Comments leave nothing.
-/

namespace TidyTable.Selector

/-- The brackets that hold something together. -/
inductive Bracket where
  | round
  | square
  | curly
deriving DecidableEq, Repr

/-- A word. -/
inductive Token where
  | space
  | ident (name : String)
  /-- A name behind a number sign. -/
  | hash (name : String)
  | text (value : String)
  /-- A whole number, and whether it has a sign. -/
  | number (signed : Bool) (value : Int)
  /-- A whole number with a name behind it. -/
  | measure (value : Int) (unit : String)
  | comma
  | colon
  | mark (c : Char)
  /-- A mark with an equals sign. -/
  | comparison (c : Char)
  | opening (name : Option String) (bracket : Bracket)
  | closing (bracket : Bracket)
  /-- A word of another kind. -/
  | other
  /-- A word that is broken off. -/
  | broken
deriving DecidableEq, Repr

/-! ## Names -/

/-- Whether a character can stand in a name. -/
def isNameChar (c : Char) : Bool :=
  c.isAlphanum || c == '_' || c == '-' || 0x80 ≤ c.toNat || c == '\x00'

/-- Whether a character can begin a name. -/
def isNameStart (c : Char) : Bool := c.isAlpha || c == '_' || 0x80 ≤ c.toNat || c == '\x00'

/-- Whether a character ends a line. -/
def isLineEnd (c : Char) : Bool := c == '\n' || c == '\r' || c == '\x0c'

/-- Whether a character behind a backslash is escaped by it. -/
def isEscaped (next : Option Char) : Bool := !next.any isLineEnd

/-- Whether a name begins here. -/
def startsName : List Char → Bool
  | '-' :: '-' :: _ => true
  | '-' :: '\\' :: cs => isEscaped cs.head?
  | '-' :: c :: _ => isNameStart c
  | '\\' :: cs => isEscaped cs.head?
  | c :: _ => isNameStart c
  | [] => false

/-- The character that hexadecimal digits behind a backslash stand for. -/
def escapedChar (digits : List Char) : Char :=
  let n := Html.Reference.number 16 digits
  if n == 0 || 0x10ffff < n || (0xd800 ≤ n && n ≤ 0xdfff) then Html.replacement else Char.ofNat n

/-- Drops the space that ends an escape. -/
def afterEscape : List Char → List Char
  | '\r' :: '\n' :: cs => cs
  | c :: cs => if Text.isAsciiSpace c then cs else c :: cs
  | [] => []

/-- What follows a backslash, taken as an escape. -/
def escape (cs : List Char) : Char × List Char :=
  let digits := (cs.take 6).takeWhile fun c => (Html.Reference.hexDigit? c).isSome
  if digits.isEmpty then
    match cs with
    | [] => (Html.replacement, [])
    | c :: rest => (Html.denull c, rest)
  else (escapedChar digits, afterEscape (cs.drop digits.length))

/-- The name at the start of a text of at most so many characters. -/
def nameIn : Nat → List Char → List Char × List Char
  | n + 1, '\\' :: cs =>
    if isEscaped cs.head? then
      let (c, rest) := escape cs
      let (name, rest) := nameIn n rest
      (c :: name, rest)
    else ([], '\\' :: cs)
  | n + 1, c :: cs =>
    if isNameChar c then
      let (name, rest) := nameIn n cs
      (Html.denull c :: name, rest)
    else ([], c :: cs)
  | _, cs => ([], cs)

/-- The name at the start of a text. -/
def leadingName (cs : List Char) : String × List Char :=
  let (name, rest) := nameIn cs.length cs
  (String.ofList name, rest)

/-! ## Texts and numbers -/

/-- The text up to a quote, in at most so many characters; none if the line ends in it. -/
def quotedIn (quote : Char) : Nat → List Char → Option (List Char) × List Char
  | 0, cs => (some [], cs)
  | _, [] => (some [], [])
  | n + 1, c :: cs =>
    if c == quote then (some [], cs)
    else if isLineEnd c then (none, c :: cs)
    else if c == '\\' then
      match cs with
      | [] => (some [], [])
      | '\r' :: '\n' :: rest => quotedIn quote n rest
      | e :: rest =>
        if isLineEnd e then quotedIn quote n rest
        else
          let (c, rest) := escape (e :: rest)
          let (text, rest) := quotedIn quote n rest
          (text.map (c :: ·), rest)
    else
      let (text, rest) := quotedIn quote n cs
      (text.map (Html.denull c :: ·), rest)

/-- A text in quotes. -/
def quoted (quote : Char) (cs : List Char) : Token × List Char :=
  match quotedIn quote cs.length cs with
  | (some text, rest) => (.text (String.ofList text), rest)
  | (none, rest) => (.broken, rest)

/-- Whether a number begins here, behind a sign if there is one. -/
def startsDigits : List Char → Bool
  | '.' :: c :: _ => c.isDigit
  | c :: _ => c.isDigit
  | [] => false

/-- The largest size of a whole number. -/
def integerLimit : Int := 0x7fffffff

/-- A number of digits with a sign. -/
def integer (negative : Bool) (digits : List Char) : Int :=
  let n : Int := digits.foldl (fun n c => min 0x80000000 (n * 10 + (c.toNat - '0'.toNat : Nat))) 0
  if negative then -n else min integerLimit n

/-- What follows the fraction of a number. -/
def afterFraction : List Char → List Char
  | '.' :: c :: cs => if c.isDigit then cs.dropWhile Char.isDigit else '.' :: c :: cs
  | cs => cs

/-- What follows the exponent of a number. -/
def afterExponent (cs : List Char) : List Char :=
  match cs with
  | e :: rest =>
    if e == 'e' || e == 'E' then
      match rest with
      | s :: d :: _ =>
        if s.isDigit then rest.dropWhile Char.isDigit
        else if (s == '+' || s == '-') && d.isDigit then (rest.drop 1).dropWhile Char.isDigit
        else cs
      | [d] => if d.isDigit then [] else cs
      | [] => cs
    else cs
  | [] => []

/-- A number, behind its sign. Only whole numbers have a value here. -/
def numeric (signed negative : Bool) (cs : List Char) : Token × List Char :=
  let digits := cs.takeWhile Char.isDigit
  let behind := cs.dropWhile Char.isDigit
  let rest := afterExponent (afterFraction behind)
  let whole := rest.length == behind.length
  match rest with
  | '%' :: rest => (.other, rest)
  | rest =>
    if startsName rest then
      let (unit, rest) := leadingName rest
      (if whole then .measure (integer negative digits) unit else .other, rest)
    else (if whole then .number signed (integer negative digits) else .other, rest)

/-! ## Words -/

/-- What follows a comment. -/
def afterComment : List Char → List Char
  | [] => []
  | '*' :: '/' :: cs => cs
  | _ :: cs => afterComment cs

/-- An address without quotes, behind its bracket: one word, broken if it has an odd character. -/
def address (cs : List Char) : Token × List Char :=
  let inside := (cs.dropWhile Text.isAsciiSpace).takeWhile (· != ')')
  let rest := (cs.dropWhile (· != ')')).drop 1
  let body := (inside.reverse.dropWhile Text.isAsciiSpace)
  let odd := fun c => Text.isAsciiSpace c || c == '\x22' || c == '\x27' || c == '('
  (if body.any odd then .broken else .other, rest)

/-- A name, or what begins with one. -/
def nameOrCall (cs : List Char) : Token × List Char :=
  match leadingName cs with
  | (n, '(' :: rest) =>
    let isQuoted := (rest.dropWhile Text.isAsciiSpace).head?.any fun c => c == '\x22' || c == '\x27'
    if String.ofList (Html.lower n.toList) == "url" && !isQuoted then address rest
    else (.opening (some n) .round, rest)
  | (n, rest) => (.ident n, rest)

/-- A mark, with an equals sign if one follows. -/
def markOrComparison (c : Char) : List Char → Token × List Char
  | '=' :: rest => (.comparison c, rest)
  | rest => (.mark c, rest)

/-- A word behind a number sign. -/
def behindHash (cs : List Char) : Token × List Char :=
  if startsName cs then
    let (n, rest) := leadingName cs
    (.hash n, rest)
  else if cs.head?.any fun c => c.isDigit || c == '-' then (.other, (leadingName cs).2)
  else (.mark '#', cs)

/-- A word behind an at sign. -/
def behindAt (cs : List Char) : Token × List Char :=
  if startsName cs then (.other, (leadingName cs).2) else (.mark '@', cs)

/-- A word that begins with a dash. -/
def behindDash (cs : List Char) : Token × List Char :=
  if startsDigits cs then numeric true true cs
  else if "->".toList.isPrefixOf cs then (.other, cs.drop 2)
  else if startsName ('-' :: cs) then nameOrCall ('-' :: cs)
  else (.mark '-', cs)

/-- The next word, from its first character on. -/
def word (c : Char) (cs : List Char) : Token × List Char :=
  if Text.isAsciiSpace c then (.space, cs.dropWhile Text.isAsciiSpace)
  else
    match c with
    | '\x22' | '\x27' => quoted c cs
    | '#' => behindHash cs
    | '(' => (.opening none .round, cs)
    | '[' => (.opening none .square, cs)
    | '\x7b' => (.opening none .curly, cs)
    | ')' => (.closing .round, cs)
    | ']' => (.closing .square, cs)
    | '\x7d' => (.closing .curly, cs)
    | '$' | '*' | '^' | '|' | '~' => markOrComparison c cs
    | '+' => if startsDigits cs then numeric true false cs else (.mark '+', cs)
    | '-' => behindDash cs
    | '.' => if startsDigits (c :: cs) then numeric false false (c :: cs) else (.mark '.', cs)
    | ',' => (.comma, cs)
    | ':' => (.colon, cs)
    | ';' => (.other, cs)
    | '<' => if "!--".toList.isPrefixOf cs then (.other, cs.drop 3) else (.mark '<', cs)
    | '@' => behindAt cs
    | c =>
      if c.isDigit then numeric false false (c :: cs)
      else if startsName (c :: cs) then nameOrCall (c :: cs)
      else (.mark c, cs)

/-- The words of a text of at most so many characters. -/
def wordsIn : Nat → List Char → List Token
  | _, [] => []
  | 0, _ => []
  | n + 1, '/' :: '*' :: cs => wordsIn n (afterComment cs)
  | n + 1, c :: cs =>
    let (token, rest) := word c cs
    token :: wordsIn n rest

/-- The words of a text. -/
def tokens (cs : List Char) : List Token := wordsIn cs.length cs

/-! ## Brackets -/

/-- A word, or what stands between brackets. -/
inductive Tree where
  | leaf (token : Token)
  | block (name : Option String) (bracket : Bracket) (content : List Tree)
deriving Repr

/-- A bracket that is open, and what stands before it. -/
structure Frame where
  name : Option String
  bracket : Bracket
  before : List Tree

/-- What was gathered so far, the latest first, within brackets that are open, the innermost
first. -/
structure Gathered where
  trees : List Tree := []
  frames : List Frame := []

namespace Gathered

/-- Closes the innermost bracket. -/
def close (g : Gathered) : Gathered :=
  match g.frames with
  | [] => g
  | f :: frames => { trees := .block f.name f.bracket g.trees.reverse :: f.before, frames }

/-- Takes one more word. -/
def take (g : Gathered) : Token → Gathered
  | .opening name bracket =>
    { trees := [], frames := { name, bracket, before := g.trees } :: g.frames }
  | .closing bracket =>
    if g.frames.head?.any (·.bracket == bracket) then g.close
    else { g with trees := .leaf (.closing bracket) :: g.trees }
  | token => { g with trees := .leaf token :: g.trees }

/-- Closes all brackets. -/
def closeAll (g : Gathered) : List Tree :=
  (g.frames.foldl (fun g _ => g.close) g).trees.reverse

end Gathered

/-- The words of a text with what stands between brackets gathered. -/
def trees (cs : List Char) : List Tree := ((tokens cs).foldl Gathered.take {}).closeAll

end TidyTable.Selector
