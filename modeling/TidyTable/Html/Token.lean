import TidyTable.Html.Characters

/-!
# Tokens

The pieces that markup is cut into. A text is never empty and has no NUL; a NUL stands alone,
because what becomes of it depends on where it stands.
-/

namespace TidyTable.Html

/-- An attribute of an element. -/
structure Attribute where
  name : String
  value : String
  /-- Whether the name belongs to a vocabulary of its own. -/
  foreign : Bool := false
deriving DecidableEq, Repr

/-- A start tag. -/
structure Tag where
  name : String
  attributes : List Attribute := []
  /-- Whether it is written as one that has no end tag. -/
  selfClosing : Bool := false
deriving DecidableEq, Repr

/-- The value of the attribute of a name. -/
def Tag.attribute? (tag : Tag) (name : String) : Option String :=
  (tag.attributes.find? (·.name == name)).map Attribute.value

/-- A piece of markup. -/
inductive Token where
  | text (chars : List Char)
  | null
  | startTag (tag : Tag)
  | endTag (name : String)
  | comment
  /-- A piece that has no place in a fragment: a document type, an end tag without a name, or the
  missing end of a reference. -/
  | noise
deriving DecidableEq, Repr

namespace Token

/-- Puts a character before the pieces that follow it. -/
def cons (c : Char) (tokens : List Token) : List Token :=
  if c == '\x00' then null :: tokens
  else
    match tokens with
    | text cs :: rest => text (c :: cs) :: rest
    | rest => text [c] :: rest

/-- The pieces of a run of symbols. -/
def ofSymbols : List Symbol → List Token
  | [] => []
  | .char c :: rest => cons c (ofSymbols rest)
  | .incomplete :: rest => noise :: ofSymbols rest

/-- The pieces of a run of characters that stand for themselves. -/
def ofChars (cs : List Char) : List Token := ofSymbols (cs.map Symbol.char)

end Token

end TidyTable.Html
