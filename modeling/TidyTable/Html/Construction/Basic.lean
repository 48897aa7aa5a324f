import TidyTable.Html.Scanner
import TidyTable.Html.Vocabulary

/-!
# A document under construction

Tokens change a document through the elements that are open, the innermost one first, and through
the formatting that is in force, the newest first. A mode says which rules hold: those of running
text, or those within a table, a list of options or a template.

Content that cannot stand in a table is put before the table, as long as `fostering` holds.
-/

namespace TidyTable.Html

/-- Which rules hold for the next token. -/
inductive Mode where
  | body
  | raw
  | table
  | tableText
  | caption
  | columnGroup
  | tableBody
  | row
  | cell
  | select
  | selectInTable
  | template
deriving DecidableEq, Repr

/-- Formatting in force, or the border of an element that formatting does not leave. -/
inductive Formatting where
  | marker
  | element (id : NodeId) (tag : Tag)
deriving DecidableEq, Repr

/-- A document with what is open in it. -/
structure Construction where
  document : Document := .empty
  /-- The elements whose end has not come, the innermost first. -/
  stack : List Open := [{ id := Document.rootId, name := "html" }]
  /-- The formatting in force, the newest first. -/
  formatting : List Formatting := []
  mode : Mode := .body
  /-- The mode to go on in after raw content or after text in a table. -/
  returnMode : Mode := .body
  /-- The modes of the templates that are open, the innermost first. -/
  templateModes : List Mode := []
  /-- Text in a table whose place is not decided yet, the newest first. -/
  pending : List (List Char) := []
  /-- The form that is open. -/
  form : Option NodeId := none
  fostering : Bool := false
  /-- Whether a line feed at the start of the next text is dropped. -/
  dropNewline : Bool := false
  /-- How the characters that follow are to be read. -/
  reading : Reading := .markup
deriving Repr

namespace Construction

/-! ## Open elements -/

/-- The innermost open element. -/
def current (b : Construction) : Open :=
  b.stack.headD { id := Document.rootId, name := "html" }

/-- Whether the innermost open element is an `html` element with one of these names. -/
def inside (b : Construction) (names : List String) : Bool := b.current.named names

/-- Whether an `html` element of this name is open. -/
def within (b : Construction) (name : String) : Bool := b.stack.any (·.named [name])

/-- Whether an `html` element with one of these names is in scope. -/
def inScope (b : Construction) (scope : Scope) (names : List String) : Bool :=
  scope.sees (·.named names) b.stack

/-- Closes the innermost element. -/
def pop (b : Construction) : Construction := { b with stack := b.stack.drop 1 }

/-- Closes elements up to the first that is one of these, and that one too. -/
def popThrough (b : Construction) (names : List String) : Construction :=
  { b with stack := (b.stack.dropWhile (!·.named names)).drop 1 }

/-- Closes elements up to the first that is one of these. -/
def popTo (b : Construction) (names : List String) : Construction :=
  { b with stack := b.stack.dropWhile (!·.named names) }

/-- Closes elements as long as they have one of these names. -/
def popImplied (b : Construction) (names : List String) : Construction :=
  { b with stack := b.stack.dropWhile (·.named names) }

/-- Closes the elements that end by themselves. -/
def closeImplied (b : Construction) : Construction := b.popImplied endsImplied

/-- Closes the elements that end by themselves, except those of some names. -/
def closeImpliedExcept (b : Construction) (names : List String) : Construction :=
  b.popImplied (endsImplied.filter (!names.contains ·))

/-- Closes a paragraph. -/
def closeParagraph (b : Construction) : Construction :=
  (b.closeImpliedExcept ["p"]).popThrough ["p"]

/-- Closes a paragraph if one is in reach. -/
def endParagraph (b : Construction) : Construction :=
  if b.inScope .button ["p"] then b.closeParagraph else b

/-- Drops an element from the open ones, wherever it stands. -/
def forget (b : Construction) (id : NodeId) : Construction :=
  { b with stack := b.stack.filter (·.id != id) }

/-! ## Places -/

/-- Where a node is put. -/
inductive Place where
  | lastIn (parent : NodeId)
  | before (sibling : NodeId)
deriving DecidableEq, Repr

/-- The place for content that the innermost table does not take. -/
def fosterPlace (d : Document) : List Open → Place
  | [] => .lastIn Document.rootId
  | o :: rest =>
    if o.named ["template"] then .lastIn (d.contentOf o.id)
    else if o.named ["table"] then
      if (d.parent? o.id).isSome then .before o.id
      else .lastIn ((rest.head?.map Open.id).getD Document.rootId)
    else fosterPlace d rest

/-- The place for content of an element. -/
def placeIn (b : Construction) (target : Open) : Place :=
  if b.fostering && target.named tableParts then fosterPlace b.document b.stack
  else .lastIn (b.document.contentOf target.id)

/-- Puts a node in a place. -/
def put (d : Document) (id : NodeId) : Place → Document
  | .lastIn parent => d.append parent id
  | .before sibling => d.insertBefore sibling id

/-- Adds text to the innermost element. -/
def insertText (b : Construction) (cs : List Char) : Construction :=
  let place := b.placeIn b.current
  let (id, d) := b.document.add (.text (String.ofList cs))
  { b with document := put d id place }

/-- Adds an element to the innermost one and opens it. -/
def insertElement (b : Construction) (e : Element) : Construction :=
  let place := b.placeIn b.current
  let (id, d) := b.document.addElement e
  { b with
    document := put d id place
    stack := { id, space := e.space, name := e.name } :: b.stack }

/-- Adds the element of a start tag and opens it. -/
def insert (b : Construction) (tag : Tag) : Construction :=
  b.insertElement { name := tag.name, attributes := tag.attributes }

/-- Adds the element of a start tag, which has no content. -/
def insertVoid (b : Construction) (tag : Tag) : Construction := (b.insert tag).pop

/-- Adds an element that no tag stands for. -/
def insertPhantom (b : Construction) (name : String) : Construction := b.insert { name }

/-- Adds the element of a start tag and reads its content raw. -/
def insertRaw (b : Construction) (kind : RawKind) (tag : Tag) : Construction :=
  { b.insert tag with mode := .raw, returnMode := b.mode, reading := .raw kind tag.name }

/-! ## Modes -/

/-- The mode within a list of options, by the elements around it. -/
def selectMode : List Open → Mode
  | [] => .select
  | o :: rest =>
    if o.named ["template"] then .select
    else if o.named ["table"] then .selectInTable
    else selectMode rest

/-- The mode that the open elements call for. -/
def modeOf (templateMode : Mode) : List Open → Mode
  | [] => .body
  | [_] => .body
  | o :: rest =>
    if o.named ["select"] then selectMode rest
    else if o.named cells then .cell
    else if o.named ["tr"] then .row
    else if o.named rowGroups then .tableBody
    else if o.named ["caption"] then .caption
    else if o.named ["colgroup"] then .columnGroup
    else if o.named ["table"] then .table
    else if o.named ["template"] then templateMode
    else modeOf templateMode rest

/-- Goes back to the mode that the open elements call for. -/
def resetMode (b : Construction) : Construction :=
  { b with mode := modeOf (b.templateModes.headD .body) b.stack }

end Construction

/-- What a token leads to: a document with more in it, and a token that is left for the rules of the
mode that holds now. -/
abbrev Outcome := Construction × Option Token

/-- The token is used up. -/
def done (b : Construction) : Outcome := (b, none)

/-- The token is left for another mode. -/
def again (b : Construction) (mode : Mode) (token : Token) : Outcome :=
  ({ b with mode }, some token)

end TidyTable.Html
