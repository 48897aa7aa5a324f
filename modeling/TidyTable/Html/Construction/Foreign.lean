import TidyTable.Html.Construction.Select

/-!
# Foreign content

Elements of other vocabularies stand in a document as they are written, and nest as their tags do.
Some `html` tags never mean a foreign element; they close what is open and go on as `html`. So does
all content of the few foreign elements that take `html`.
-/

namespace TidyTable.Html.Construction

/-- What a token does by the rules of the mode that holds. -/
def inMode (b : Construction) (token : Token) : Outcome :=
  match b.mode with
  | .body => done (b.body token)
  | .raw =>
    match token with
    | .text cs => done (b.insertText cs)
    | .endTag _ => done { b.pop with mode := b.returnMode }
    | _ => done b
  | .table => b.table token
  | .tableText => b.tableText token
  | .caption => b.caption token
  | .columnGroup => b.columnGroup token
  | .tableBody => b.tableBody token
  | .row => b.row token
  | .cell => b.cell token
  | .select => b.select token
  | .selectInTable => b.selectInTable token
  | .template => b.template token

/-- The tags that never mean a foreign element. -/
def neverForeign : List String :=
  ["b", "big", "blockquote", "body", "br", "center", "code", "dd", "div", "dl", "dt", "em", "embed",
    "h1", "h2", "h3", "h4", "h5", "h6", "head", "hr", "i", "img", "li", "listing", "menu", "meta",
    "nobr", "ol", "p", "pre", "ruby", "s", "small", "span", "strong", "strike", "sub", "sup",
    "table", "tt", "u", "ul", "var"]

/-- Whether a start tag never means a foreign element. -/
def leavesForeign (tag : Tag) : Bool :=
  neverForeign.contains tag.name
    || (tag.name == "font" && tag.attributes.any fun a => ["color", "face", "size"].contains a.name)

/-- Whether an element takes `html` content. -/
def takesHtml (o : Open) : Bool :=
  o.space == .html || isTextPoint o.space o.name || isHtmlPoint o.space o.name

/-- Closes the foreign elements that take no `html` content. -/
def leaveForeign (b : Construction) : Construction :=
  { b with stack := b.stack.dropWhile (!takesHtml ·) }

/-- Ends the foreign element of a name. If an `html` element is met first, the tag is for it. -/
def endForeign (b : Construction) (name : String) : Outcome :=
  let isEnd := fun (o : Open) => String.ofList (lower o.name.toList) == name
  let goesOn := fun (o : Open) => o.space != .html && !isEnd o
  match b.stack with
  | [] => done b
  | first :: rest =>
    let above := if isEnd first then first :: rest else rest.dropWhile goesOn
    match above with
    -- the root element is never closed
    | [] | [_] => done b
    | o :: around =>
      if o.space == .html then b.inMode (.endTag name) else done { b with stack := around }

/-- What a token does in foreign content. -/
def foreign (b : Construction) (token : Token) : Outcome :=
  match token with
  | .text cs => done (b.insertText cs)
  | .null => done (b.insertText [replacement])
  | .startTag tag =>
    if leavesForeign tag then b.leaveForeign.inMode token
    else done (b.insertForeign b.current.space (Tag.adjusted b.current.space tag))
  | .endTag name =>
    if name == "br" || name == "p" then b.leaveForeign.inMode token else b.endForeign name
  | .comment | .noise => done b

/-- Whether a token is for the rules of foreign content. -/
def isForeign (b : Construction) (token : Token) : Bool :=
  let o := b.current
  match o.space, token with
  | .html, _ => false
  | space, .text _ | space, .null => !isTextPoint space o.name && !isHtmlPoint space o.name
  | space, .startTag tag =>
    !(isTextPoint space o.name && tag.name != "mglyph" && tag.name != "malignmark")
      && !isHtmlPoint space o.name
      && !(space == .mathml && o.name == "annotation-xml" && tag.name == "svg")
  | _, _ => true

end TidyTable.Html.Construction
