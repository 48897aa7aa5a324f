import TidyTable.Html.Token
import TidyTable.Text.Blank

/-!
# Cutting markup into tokens

`scan` takes the next pieces from the front of markup. How it reads depends on what is open: within
an element whose content is raw, only the matching end tag is markup. Nothing is refused. What is
not well formed is read as text, as a comment, or not at all; a tag that the input breaks off in
leaves nothing.

Line ends are expected to be line feeds; `lineFeeds` makes them so.
-/

namespace TidyTable.Html

open TidyTable.Text (isAsciiSpace)

/-- Makes every line end a line feed. -/
def lineFeeds : List Char → List Char
  | [] => []
  | '\r' :: '\n' :: cs => '\n' :: lineFeeds cs
  | c :: cs => (if c == '\r' then '\n' else c) :: lineFeeds cs

/-- What the content of a raw element may hold. -/
inductive RawKind where
  /-- Text with references. -/
  | escapable
  /-- Text as it stands. -/
  | verbatim
  /-- Text as it stands, in which a comment can hide the end tag. -/
  | script
deriving DecidableEq, Repr

/-- How the next characters are to be read. -/
inductive Reading where
  | markup
  | raw (kind : RawKind) (name : String)
  | plaintext
deriving DecidableEq, Repr

/-! ## Tags -/

/-- Whether a character ends the name of a tag. -/
def endsTagName (c : Char) : Bool := isAsciiSpace c || c == '/' || c == '>'

/-- Whether a character ends the name of an attribute. -/
def endsAttributeName (c : Char) : Bool := endsTagName c || c == '='

/-- Drops the spaces in front. -/
def skipSpace (cs : List Char) : List Char := cs.dropWhile isAsciiSpace

/-- A name as it is kept: in lower case and without NUL. -/
def canonicalName (cs : List Char) : String := String.ofList ((lower cs).map denull)

/-- The characters up to a quote, if there is one, and what follows it. -/
def quoted? (quote : Char) (cs : List Char) : Option (List Char × List Char) :=
  match cs.dropWhile (· != quote) with
  | [] => none
  | _ :: rest => some (cs.takeWhile (· != quote), rest)

/-- The value that follows an equals sign, in quotes or not. -/
def value? (cs : List Char) : Option (List Char × List Char) :=
  match cs with
  | '\x22' :: rest => quoted? '\x22' rest
  | '\x27' :: rest => quoted? '\x27' rest
  | cs =>
    let ends := fun c => isAsciiSpace c || c == '>'
    some (cs.takeWhile (!ends ·), cs.dropWhile (!ends ·))

/-- The value of an attribute whose name has just been read; without an equals sign it is empty. -/
def attributeValue? (cs : List Char) : Option (List Char × List Char) :=
  match skipSpace cs with
  | '=' :: rest => value? (skipSpace rest)
  | rest => some ([], rest)

private theorem length_skipSpace (cs : List Char) : (skipSpace cs).length ≤ cs.length :=
  cs.dropWhile_suffix _ |>.length_le

private theorem length_quoted {quote : Char} {cs v rest : List Char}
    (h : quoted? quote cs = some (v, rest)) : rest.length ≤ cs.length := by
  unfold quoted? at h
  have hs := (cs.dropWhile_suffix (· != quote)).length_le
  split at h
  · simp at h
  · rename_i c r hd
    simp only [Option.some.injEq, Prod.mk.injEq] at h
    rw [hd, List.length_cons] at hs
    rw [← h.2]
    omega

private theorem length_value {cs v rest : List Char} (h : value? cs = some (v, rest)) :
    rest.length ≤ cs.length := by
  unfold value? at h
  split at h
  · have := length_quoted h
    simp only [List.length_cons]
    omega
  · have := length_quoted h
    simp only [List.length_cons]
    omega
  · simp only [Option.some.injEq, Prod.mk.injEq] at h
    rw [← h.2]
    exact (List.dropWhile_suffix _).length_le

private theorem length_attributeValue {cs v rest : List Char}
    (h : attributeValue? cs = some (v, rest)) : rest.length ≤ cs.length := by
  unfold attributeValue? at h
  have hs := length_skipSpace cs
  split at h
  · rename_i r hr
    have h1 := length_value h
    have h2 := length_skipSpace r
    rw [hr, List.length_cons] at hs
    omega
  · simp only [Option.some.injEq, Prod.mk.injEq] at h
    rw [← h.2]
    exact hs

/-- The end of a tag: its attributes, whether it closes itself, and what follows. -/
structure TagEnd where
  attributes : List Attribute := []
  selfClosing : Bool := false
  rest : List Char
deriving DecidableEq, Repr

/-- Puts an attribute in front; one of the same name that stands further behind is dropped. -/
def TagEnd.add (e : TagEnd) (a : Attribute) : TagEnd :=
  { e with attributes := a :: e.attributes.filter (·.name != a.name) }

/-- Reads a tag behind its name, unless the input breaks off in it. -/
def tagEnd? (cs : List Char) : Option TagEnd :=
  match _h : skipSpace cs with
  | [] => none
  | '>' :: rest => some { rest }
  | '/' :: '>' :: rest => some { selfClosing := true, rest }
  | '/' :: rest => tagEnd? rest
  | c :: r =>
    match _hv : attributeValue? (r.dropWhile (!endsAttributeName ·)) with
    | none => none
    | some (value, rest) =>
      let name := canonicalName (c :: r.takeWhile (!endsAttributeName ·))
      let value := String.ofList (attributeValue value)
      (tagEnd? rest).map (·.add { name, value })
termination_by cs.length
decreasing_by
  · have hs := length_skipSpace cs
    rw [_h, List.length_cons] at hs
    omega
  · have hs := length_skipSpace cs
    have h1 := length_attributeValue _hv
    have h2 := (r.dropWhile_suffix (!endsAttributeName ·)).length_le
    rw [_h, List.length_cons] at hs
    omega

/-- Reads a tag from its name on. -/
def tag? (cs : List Char) : Option (Tag × List Char) :=
  (tagEnd? (cs.dropWhile (!endsTagName ·))).map fun e =>
    ({ name := canonicalName (cs.takeWhile (!endsTagName ·))
       attributes := e.attributes
       selfClosing := e.selfClosing }, e.rest)

/-- Reads a start tag from its name on. -/
def startTag (cs : List Char) : List Token × List Char :=
  match tag? cs with
  | some (tag, rest) => ([.startTag tag], rest)
  | none => ([], [])

/-- Reads an end tag from its name on. -/
def endTag (cs : List Char) : List Token × List Char :=
  match tag? cs with
  | some (tag, rest) => ([.endTag tag.name], rest)
  | none => ([], [])

/-! ## Other markup -/

/-- What follows the next closing bracket. -/
def afterBracket (cs : List Char) : List Char := (cs.dropWhile (· != '>')).drop 1

/-- What follows the end of a comment. -/
def afterDashes : List Char → List Char
  | [] => []
  | '-' :: '-' :: '>' :: rest => rest
  | '-' :: '-' :: '!' :: '>' :: rest => rest
  | _ :: cs => afterDashes cs

/-- What follows a comment that has just begun; one that closes at once is over. -/
def afterComment : List Char → List Char
  | '>' :: rest => rest
  | '-' :: '>' :: rest => rest
  | cs => afterDashes cs

/-- The text of a literal section and what follows it. -/
def literal : List Char → List Char × List Char
  | [] => ([], [])
  | ']' :: ']' :: '>' :: rest => ([], rest)
  | c :: cs => let (text, rest) := literal cs; (c :: text, rest)

/-- Whether a text starts with a word in lower case, however it is written. -/
def startsWith (word cs : List Char) : Bool := lower (cs.take word.length) == word

/-- A declaration: a document type, a literal section where one is allowed, or else a comment. -/
def declaration (literals : Bool) (cs : List Char) : List Token × List Char :=
  if startsWith "doctype".toList cs then ([.noise], afterBracket cs)
  else if literals && "[CDATA[".toList.isPrefixOf cs then
    let (text, rest) := literal (cs.drop 7)
    (Token.ofChars text, rest)
  else ([.comment], afterBracket cs)

/-- What begins with an opening bracket. -/
def bracket (literals : Bool) (cs : List Char) : List Token × List Char :=
  match cs with
  | '!' :: '-' :: '-' :: rest => ([.comment], afterComment rest)
  | '!' :: rest => declaration literals rest
  | '?' :: rest => ([.comment], afterBracket rest)
  | '/' :: '>' :: rest => ([.noise], rest)
  | '/' :: c :: rest =>
    if c.isAlpha then endTag (c :: rest) else ([.comment], afterBracket (c :: rest))
  | ['/'] => ([.text ['<', '/']], [])
  | c :: rest => if c.isAlpha then startTag (c :: rest) else ([.text ['<']], c :: rest)
  | [] => ([.text ['<']], [])

/-! ## Raw content -/

/-- Whether the end tag of an element begins here. -/
def closes (name : List Char) : List Char → Bool
  | '<' :: '/' :: cs => startsWith name cs && (cs.drop name.length).head?.any endsTagName
  | _ => false

/-- The text up to the end tag of an element, and what follows it. -/
def untilClosed (name : List Char) : List Char → List Char × List Char
  | [] => ([], [])
  | c :: cs =>
    if closes name (c :: cs) then ([], c :: cs)
    else let (text, rest) := untilClosed name cs; (c :: text, rest)

/-- Where a script stands: outside of comments, in a comment, or in a script within a comment. In a
comment the dashes just before are counted, up to the two that can end it. -/
inductive ScriptPart where
  | plain
  | comment (dashes : Nat)
  | inner (dashes : Nat)
deriving DecidableEq, Repr

namespace ScriptPart

/-- Whether the start tag of a script begins here. -/
def opens : List Char → Bool
  | '<' :: cs => startsWith "script".toList cs && (cs.drop 6).head?.any endsTagName
  | _ => false

/-- Whether the end tag of the script is one here. -/
def endable : ScriptPart → Bool
  | .inner _ => false
  | _ => true

/-- The part behind the first character of a text. -/
def next (part : ScriptPart) (cs : List Char) : ScriptPart :=
  match part, cs with
  | .plain, '<' :: '!' :: '-' :: '-' :: _ => .comment 0
  | .plain, _ => .plain
  | .comment d, '-' :: _ => .comment (min 2 (d + 1))
  | .comment 2, '>' :: _ => .plain
  | .comment _, cs => if opens cs then .inner 0 else .comment 0
  | .inner d, '-' :: _ => .inner (min 2 (d + 1))
  | .inner 2, '>' :: _ => .plain
  | .inner _, cs => if closes "script".toList cs then .comment 0 else .inner 0

end ScriptPart

/-- The text of a script up to its end tag, and what follows it. -/
def untilScriptCloses (part : ScriptPart) : List Char → List Char × List Char
  | [] => ([], [])
  | c :: cs =>
    if part.endable && closes "script".toList (c :: cs) then ([], c :: cs)
    else
      let (text, rest) := untilScriptCloses (part.next (c :: cs)) cs
      (c :: text, rest)

/-- The content of a raw element and what follows it. -/
def rawContent (kind : RawKind) (name : String) (cs : List Char) : List Token × List Char :=
  match kind with
  | .escapable =>
    let (text, rest) := untilClosed name.toList cs
    (Token.ofSymbols (Symbol.decode false (text.map denull)), rest)
  | .verbatim =>
    let (text, rest) := untilClosed name.toList cs
    (Token.ofChars (text.map denull), rest)
  | .script =>
    let (text, rest) := untilScriptCloses .plain cs
    (Token.ofChars (text.map denull), rest)

/-- A raw element from behind its start tag to behind its end tag. -/
def rawElement (kind : RawKind) (name : String) (cs : List Char) : List Token × List Char :=
  let (content, rest) := rawContent kind name cs
  let (tokens, rest) := endTag (rest.drop 2)
  (content ++ tokens, rest)

/-- The next pieces of markup and what follows them. `literals` says whether literal sections are
understood here. -/
def scan (literals : Bool) (reading : Reading) (cs : List Char) : List Token × List Char :=
  match reading with
  | .plaintext => (Token.ofChars (cs.map denull), [])
  | .raw kind name => rawElement kind name cs
  | .markup =>
    match cs with
    | '<' :: rest => bracket literals rest
    | cs =>
      (Token.ofSymbols (Symbol.decode false (cs.takeWhile (· != '<'))),
        cs.dropWhile (· != '<'))

end TidyTable.Html
