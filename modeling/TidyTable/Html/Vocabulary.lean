import TidyTable.Html.Document

/-!
# Classes of elements

The element names that the rules of construction tell apart. A name counts only together with its
vocabulary: the classes are of `html` elements, except where the few elements of the other
vocabularies that take `html` content are meant.
-/

namespace TidyTable.Html

/-- An element whose end has not come yet. -/
structure Open where
  id : NodeId
  space : Space := .html
  name : String
deriving DecidableEq, Repr

namespace Open

/-- Whether it is an `html` element with one of these names. -/
def named (o : Open) (names : List String) : Bool := o.space == .html && names.contains o.name

end Open

/-- The six levels of headings. -/
def headings : List String := ["h1", "h2", "h3", "h4", "h5", "h6"]

/-- Elements of `html` with rules of their own, which no formatting reaches across. -/
def special : List String :=
  ["address", "applet", "area", "article", "aside", "base", "basefont", "bgsound", "blockquote",
    "body", "br", "button", "caption", "center", "col", "colgroup", "dd", "details", "dir", "div",
    "dl", "dt", "embed", "fieldset", "figcaption", "figure", "footer", "form", "frame", "frameset",
    "h1", "h2", "h3", "h4", "h5", "h6", "head", "header", "hgroup", "hr", "html", "iframe", "img",
    "input", "isindex", "li", "link", "listing", "main", "marquee", "menu", "meta", "nav",
    "noembed", "noframes", "noscript", "object", "ol", "p", "param", "plaintext", "pre", "script",
    "section", "select", "source", "style", "summary", "table", "tbody", "td", "template",
    "textarea", "tfoot", "th", "thead", "title", "tr", "track", "ul", "wbr", "xmp"]

/-- Elements that end where the element around them does. -/
def endsImplied : List String :=
  ["dd", "dt", "li", "option", "optgroup", "p", "rb", "rp", "rt", "rtc"]

/-- Elements that end where a template does. -/
def endsImpliedInTemplate : List String :=
  endsImplied ++ ["caption", "colgroup", "tbody", "td", "tfoot", "th", "thead", "tr"]

/-- Blocks that end an open paragraph. -/
def blocks : List String :=
  ["address", "article", "aside", "blockquote", "center", "details", "dialog", "dir", "div", "dl",
    "fieldset", "figcaption", "figure", "footer", "header", "hgroup", "main", "menu", "nav", "ol",
    "p", "section", "summary", "ul"]

/-- Elements that an end tag closes together with whatever is open in them. -/
def closedWhole : List String :=
  ["address", "article", "aside", "blockquote", "button", "center", "details", "dialog", "dir",
    "div", "dl", "fieldset", "figcaption", "figure", "footer", "header", "hgroup", "listing",
    "main", "menu", "nav", "ol", "pre", "section", "summary", "ul"]

/-- Elements that format text; they are opened again where a block cuts them. -/
def formattingNames : List String :=
  ["b", "big", "code", "em", "font", "i", "s", "small", "strike", "strong", "tt", "u"]

/-- Elements that formatting does not leave. -/
def embedded : List String := ["applet", "marquee", "object"]

/-- Elements without content that stand in text. -/
def voidInText : List String := ["area", "br", "embed", "img", "input", "keygen", "wbr"]

/-- Elements without content that stand for themselves. -/
def voidAlone : List String := ["param", "source", "track"]

/-- Elements about the document, without content. -/
def metadata : List String := ["base", "basefont", "bgsound", "link", "meta"]

/-- Elements of a document's head that keep their meaning in its body. -/
def headNames : List String :=
  metadata ++ ["noframes", "script", "style", "template", "title"]

/-- The parts of a table that hold rows. -/
def rowGroups : List String := ["tbody", "tfoot", "thead"]

/-- Cells of a table. -/
def cells : List String := ["td", "th"]

/-- Elements whose content is only parts of a table: other content is put before the table. -/
def tableParts : List String := ["table", "tbody", "tfoot", "thead", "tr"]

/-- Parts of a table that mean nothing outside of one. -/
def strayTableParts : List String :=
  ["caption", "col", "colgroup", "frame", "head", "tbody", "td", "tfoot", "th", "thead", "tr"]

/-! ## Scopes -/

/-- How far up the open elements a rule looks. -/
inductive Scope where
  | general
  | listItem
  | button
  | table
  | select
deriving DecidableEq, Repr

/-- Whether an element takes text as `html` does. -/
def isTextPoint (space : Space) (name : String) : Bool :=
  space == .mathml && ["mi", "mo", "mn", "ms", "mtext"].contains name

/-- Whether an element takes any `html` content. -/
def isHtmlPoint (space : Space) (name : String) : Bool :=
  space == .svg && ["foreignObject", "desc", "title"].contains name

/-- Whether no rule of general scope looks past an element. -/
def endsGeneralScope (o : Open) : Bool :=
  o.named ["applet", "caption", "html", "table", "td", "th", "marquee", "object", "template"]
    || isTextPoint o.space o.name || isHtmlPoint o.space o.name

/-- Whether a rule does not look past an element. -/
def Scope.endsAt (scope : Scope) (o : Open) : Bool :=
  match scope with
  | .general => endsGeneralScope o
  | .listItem => endsGeneralScope o || o.named ["ol", "ul"]
  | .button => endsGeneralScope o || o.named ["button"]
  | .table => o.named ["html", "table", "template"]
  | .select => !o.named ["optgroup", "option"]

/-- Whether an element of the open ones can be seen from the innermost one. -/
def Scope.sees (scope : Scope) (p : Open → Bool) : List Open → Bool
  | [] => false
  | o :: rest => p o || (!scope.endsAt o && scope.sees p rest)

end TidyTable.Html
