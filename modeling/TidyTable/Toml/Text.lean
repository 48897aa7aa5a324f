import TidyTable.Html.Characters

/-!
# Texts and keys in TOML

A text stands between one or three quotes of either kind. Between double quotes a backslash escapes;
between single quotes everything stands for itself. Only a text between three quotes goes over
several lines: its line ends are line feeds, one right behind the opening quotes is dropped, and a
backslash at the end of a line drops all space up to the next word.

Every reader gives what it has read and the rest of the text.
-/

namespace TidyTable.Toml

/-- Reads something at the start of a text, if it stands there. -/
abbrev Reader (α : Type) := List Char → Option (α × List Char)

/-- Whether a character may not stand in a text or a comment. -/
def isControl (c : Char) : Bool := (c.toNat < 0x20 && c != '\t') || c.toNat == 0x7f

/-- Whether a character is a space within a line. -/
def isSpace (c : Char) : Bool := c == ' ' || c == '\t'

/-- Drops the spaces in front. -/
def skipSpace (cs : List Char) : List Char := cs.dropWhile isSpace

/-- The end of a line. -/
def lineEnd? : List Char → Option (List Char)
  | '\n' :: cs => some cs
  | '\r' :: '\n' :: cs => some cs
  | _ => none

/-! ## Escapes -/

/-- The character that so many hexadecimal digits stand for. -/
def coded? (digits : Nat) (cs : List Char) : Option (Char × List Char) :=
  let code := cs.take digits
  let n := Html.Reference.number 16 code
  if code.length == digits && code.all (fun c => (Html.Reference.hexDigit? c).isSome) then
    if h : n.isValidChar then some (Char.ofNatAux n h, cs.drop digits) else none
  else none

/-- What stands behind a backslash. -/
def escape? : List Char → Option (Char × List Char)
  | 'b' :: cs => some ('\x08', cs)
  | 't' :: cs => some ('\t', cs)
  | 'n' :: cs => some ('\n', cs)
  | 'f' :: cs => some ('\x0c', cs)
  | 'r' :: cs => some ('\r', cs)
  | '\x22' :: cs => some ('\x22', cs)
  | '\\' :: cs => some ('\\', cs)
  | 'u' :: cs => coded? 4 cs
  | 'U' :: cs => coded? 8 cs
  | _ => none

/-! ## Texts of one line -/

/-- Adds a character in front of what is read. -/
def push (c : Char) (r : Option (List Char × List Char)) : Option (List Char × List Char) :=
  r.map fun (text, rest) => (c :: text, rest)

/-- The rest of a text between double quotes, of at most so many characters. -/
def quotedIn? : Nat → List Char → Option (List Char × List Char)
  | 0, _ => none
  | _, [] => none
  | n + 1, c :: cs =>
    if c == '\x22' then some ([], cs)
    else if c == '\\' then do
      let (c, rest) ← escape? cs
      push c (quotedIn? n rest)
    else if isControl c then none
    else push c (quotedIn? n cs)

/-- The rest of a text between double quotes. -/
def quoted? (cs : List Char) : Option (List Char × List Char) := quotedIn? cs.length cs

/-- The rest of a text between single quotes. -/
def literal? : List Char → Option (List Char × List Char)
  | [] => none
  | c :: cs =>
    if c == '\x27' then some ([], cs) else if isControl c then none else push c (literal? cs)

/-! ## Texts of several lines -/

/-- The end of a text between three quotes: up to two more of them belong to the text. -/
def tripleEnd? (quote : Char) (cs : List Char) : Option (List Char × List Char) :=
  let run := (cs.takeWhile (· == quote)).length
  if run < 3 then none
  else
    let inside := min 2 (run - 3)
    some (List.replicate inside quote, cs.drop (inside + 3))

/-- What follows a backslash at the end of a line. -/
def continued? (cs : List Char) : Option (List Char) :=
  match lineEnd? (skipSpace cs) with
  | some rest => some (rest.dropWhile fun c => isSpace c || c == '\n' || c == '\r')
  | none => none

/-- The rest of a text between three quotes, of at most so many characters. -/
def linesIn? (quote : Char) : Nat → List Char → Option (List Char × List Char)
  | 0, _ => none
  | _, [] => none
  | n + 1, c :: cs =>
    -- the end of the text comes before anything else that could begin here
    match tripleEnd? quote (c :: cs), lineEnd? (c :: cs) with
    | some found, _ => some found
    | _, some rest => push '\n' (linesIn? quote n rest)
    | none, none =>
      if c == '\\' && quote == '\x22' then
        match continued? cs with
        | some rest => linesIn? quote n rest
        | none => do
          let (c, rest) ← escape? cs
          push c (linesIn? quote n rest)
      else if isControl c then none
      else push c (linesIn? quote n cs)

/-- The rest of a text between three quotes. -/
def lines? (quote : Char) (cs : List Char) : Option (List Char × List Char) :=
  let cs := (lineEnd? cs).getD cs
  linesIn? quote cs.length cs

/-- A text in any quotes, if one begins here. -/
def text? (cs : List Char) : Option (String × List Char) :=
  let found :=
    match cs with
    | '\x22' :: '\x22' :: '\x22' :: rest => lines? '\x22' rest
    | '\x27' :: '\x27' :: '\x27' :: rest => lines? '\x27' rest
    | '\x22' :: rest => quoted? rest
    | '\x27' :: rest => literal? rest
    | _ => none
  found.map fun (text, rest) => (String.ofList text, rest)

/-! ## Keys -/

/-- Whether a character can stand in a key without quotes. -/
def isKeyChar (c : Char) : Bool := c.isAlphanum || c == '_' || c == '-'

/-- A key without dots. -/
def key? (cs : List Char) : Option (String × List Char) :=
  match cs with
  | '\x22' :: rest => (quoted? rest).map fun (text, rest) => (String.ofList text, rest)
  | '\x27' :: rest => (literal? rest).map fun (text, rest) => (String.ofList text, rest)
  | cs =>
    let name := cs.takeWhile isKeyChar
    if name.isEmpty then none else some (String.ofList name, cs.drop name.length)

/-- Keys with dots between them, at most so many. -/
def pathIn? : Nat → List Char → Option (List String × List Char)
  | 0, _ => none
  | n + 1, cs => do
    let (key, rest) ← key? (skipSpace cs)
    match skipSpace rest with
    | '.' :: rest => do
      let (keys, rest) ← pathIn? n rest
      some (key :: keys, rest)
    | rest => some ([key], rest)

/-- Keys with dots between them, and what follows them and the space behind. -/
def path? (cs : List Char) : Option (List String × List Char) := pathIn? cs.length cs

end TidyTable.Toml
