import TidyTable.Html.Construction.Foreign

/-!
# Reading a fragment

A fragment is content of the body of a document. Every text is a fragment: what is not well formed
is put right.
-/

namespace TidyTable.Html

namespace Construction

/-- How often a token can be left for another mode. Each time either an element is closed, of which
there are no more than are open, or the rules go on to the next larger or smaller part. -/
def handOvers (b : Construction) : Nat := 4 * b.stack.length + 16

/-- Applies rules to a token until it is used up. -/
def process (token : Token) : Nat → Construction → Construction
  | 0, b => b
  | n + 1, b =>
    match if b.isForeign token then b.foreign token else b.inMode token with
    | (b, none) => b
    | (b, some token) => process token n b

/-- Drops the line feed at the start of a text. -/
def withoutNewline : Token → Option Token
  | .text ['\n'] => none
  | .text ('\n' :: cs) => some (.text cs)
  | token => some token

/-- Takes the next token. -/
def feed (b : Construction) (token : Token) : Construction :=
  -- a line feed is dropped only right behind the start tag, whatever the next token is
  let token := if b.dropNewline then withoutNewline token else some token
  let b := { b with dropNewline := false }
  match token with
  | none | some .noise => b
  | some token => b.process token b.handOvers

/-- Whether literal sections are understood here. -/
def takesLiterals (b : Construction) : Bool := b.current.space != .html

/-- Ends the input: text that waits is put in its place. -/
def finish (b : Construction) : Construction :=
  if b.mode == .tableText then b.settleText else b

/-- Takes all that is left of the input, in at most as many steps as it has characters. -/
def readOn (b : Construction) (cs : List Char) : Nat → Construction
  | 0 => b
  | n + 1 =>
    match cs with
    | [] => b
    | cs =>
      let (tokens, rest) := scan b.takesLiterals b.reading cs
      (tokens.foldl feed { b with reading := .markup }).readOn rest n

end Construction

/-- The document of a fragment. -/
def Document.ofFragment (cs : List Char) : Document :=
  let cs := lineFeeds cs
  (({} : Construction).readOn cs cs.length).finish.document

end TidyTable.Html
