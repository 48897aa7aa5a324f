import TidyTable.Html.Construction.Formatting
import TidyTable.Html.Spelling

/-!
# Running text

What tokens do outside of tables, lists of options and templates, and what those that belong to the
head of a document do anywhere. No token is left over: each of them adds to the document, closes
elements, or is ignored.
-/

namespace TidyTable.Html.Construction

/-! ## Tags of the head -/

/-- Begins an element of the head. -/
def startHead (b : Construction) (tag : Tag) : Construction :=
  if metadata.contains tag.name then b.insertVoid tag
  else if tag.name == "title" then b.insertRaw .escapable tag
  else if tag.name == "script" then b.insertRaw .script tag
  else if tag.name == "template" then
    { (b.insert tag).pushMarker with
      mode := .template
      templateModes := .template :: b.templateModes }
  else b.insertRaw .verbatim tag

/-- Ends a template, if one is open. -/
def endTemplate (b : Construction) : Construction :=
  if b.within "template" then
    let b := ((b.popImplied endsImpliedInTemplate).popThrough ["template"]).clearToMarker
    { b with templateModes := b.templateModes.drop 1 }.resetMode
  else b

/-! ## Foreign elements -/

/-- Adds an element of another vocabulary, and opens it unless it closes itself. -/
def insertForeign (b : Construction) (space : Space) (tag : Tag) : Construction :=
  let b := b.insertElement { space, name := tag.name, attributes := tag.attributes }
  if tag.selfClosing then b.pop else b

/-! ## Start tags -/

/-- Begins a list item; one that is open ends, unless another element holds it. -/
def startItem (b : Construction) (names : List String) (tag : Tag) : Construction :=
  let holds := fun (o : Open) => o.named special && !o.named ["address", "div", "p"]
  let b :=
    match b.stack.find? fun o => o.named names || holds o with
    | some o =>
      if o.named names then (b.closeImpliedExcept [o.name]).popThrough [o.name] else b
    | none => b
  b.endParagraph.insert tag

/-- Begins a form, unless one is open already. -/
def startForm (b : Construction) (tag : Tag) : Construction :=
  if b.within "template" then b.endParagraph.insert tag
  else if b.form.isSome then b
  else
    let b := b.endParagraph.insert tag
    { b with form := some b.current.id }

/-- Begins a button; buttons do not nest. -/
def startButton (b : Construction) (tag : Tag) : Construction :=
  let b := if b.inScope .general ["button"] then b.closeImplied.popThrough ["button"] else b
  b.reconstruct.insert tag

/-- Begins text that does not break; such text does not nest. -/
def startUnbroken (b : Construction) (tag : Tag) : Construction :=
  let b := b.reconstruct
  let b := if b.inScope .general ["nobr"] then (b.endFormatting "nobr").reconstruct else b
  b.insertFormatting tag

/-- Begins a list of options. -/
def startSelect (b : Construction) (tag : Tag) : Construction :=
  let mode :=
    if [Mode.table, .caption, .tableBody, .row, .cell].contains b.mode then Mode.selectInTable
    else .select
  { b.reconstruct.insert tag with mode }

/-- Begins an element of running text by its name. -/
def startBody (b : Construction) (tag : Tag) : Construction :=
  let name := tag.name
  if blocks.contains name then b.endParagraph.insert tag
  else if headings.contains name then
    let b := b.endParagraph
    (if b.inside headings then b.pop else b).insert tag
  else if formattingNames.contains name then b.reconstruct.insertFormatting tag
  else if name == "a" then b.endOuterLink.reconstruct.insertFormatting tag
  else if voidInText.contains name then b.reconstruct.insertVoid tag
  else if name == "li" then b.startItem ["li"] tag
  else if name == "dd" || name == "dt" then b.startItem ["dd", "dt"] tag
  else if name == "table" then { b.endParagraph.insert tag with mode := .table }
  else if headNames.contains name then b.startHead tag
  else if name == "pre" || name == "listing" then
    { b.endParagraph.insert tag with dropNewline := true }
  else if name == "form" then b.startForm tag
  else if name == "plaintext" then { b.endParagraph.insert tag with reading := .plaintext }
  else if name == "button" then b.startButton tag
  else if name == "nobr" then b.startUnbroken tag
  else if embedded.contains name then (b.reconstruct.insert tag).pushMarker
  else if voidAlone.contains name then b.insertVoid tag
  else if name == "hr" then b.endParagraph.insertVoid tag
  else if name == "image" then b.reconstruct.insertVoid { tag with name := "img" }
  else if name == "textarea" then { b.insertRaw .escapable tag with dropNewline := true }
  else if name == "xmp" then b.endParagraph.reconstruct.insertRaw .verbatim tag
  else if ["iframe", "noembed", "noscript"].contains name then b.insertRaw .verbatim tag
  else if name == "select" then b.startSelect tag
  else if name == "optgroup" || name == "option" then
    (if b.inside ["option"] then b.pop else b).reconstruct.insert tag
  else if name == "rb" || name == "rtc" then
    (if b.inScope .general ["ruby"] then b.closeImplied else b).insert tag
  else if name == "rp" || name == "rt" then
    (if b.inScope .general ["ruby"] then b.closeImpliedExcept ["rtc"] else b).insert tag
  else if name == "math" then b.insertForeign .mathml (Tag.adjusted .mathml tag)
  else if name == "svg" then b.insertForeign .svg (Tag.adjusted .svg tag)
  else if name == "html" then
    if b.within "template" then b
    else { b with document := b.document.addMissing Document.rootId tag.attributes }
  else if name == "body" || name == "frameset" || strayTableParts.contains name then b
  else b.reconstruct.insert tag

/-! ## End tags -/

/-- Closes an element that is in scope, with what ends by itself in it. -/
def closeInScope (b : Construction) (scope : Scope) (name : String) (kept : List String) :
    Construction :=
  if b.inScope scope [name] then (b.closeImpliedExcept kept).popThrough [name] else b

/-- Ends a form. -/
def endForm (b : Construction) : Construction :=
  if b.within "template" then b.closeInScope .general "form" []
  else
    match b.form with
    | none => b
    | some id =>
      let b := { b with form := none }
      if Scope.general.sees (·.id == id) b.stack then b.closeImplied.forget id else b

/-- Ends an element of running text by its name. -/
def endBody (b : Construction) (name : String) : Construction :=
  if closedWhole.contains name then b.closeInScope .general name []
  else if formattingNames.contains name || name == "a" || name == "nobr" then
    b.endFormatting name
  else if name == "p" then
    (if b.inScope .button ["p"] then b else b.insertPhantom "p").closeParagraph
  else if name == "li" then b.closeInScope .listItem "li" ["li"]
  else if name == "dd" || name == "dt" then b.closeInScope .general name [name]
  else if headings.contains name then
    if b.inScope .general headings then b.closeImplied.popThrough headings else b
  else if embedded.contains name then
    if b.inScope .general [name] then (b.closeImplied.popThrough [name]).clearToMarker else b
  else if name == "form" then b.endForm
  else if name == "br" then b.reconstruct.insertVoid { name }
  else if name == "template" then b.endTemplate
  else if name == "body" || name == "html" then b
  else b.closeNamed name

/-- What a token does in running text. -/
def body (b : Construction) : Token → Construction
  | .text cs => b.reconstruct.insertText cs
  | .startTag tag => b.startBody tag
  | .endTag name => b.endBody name
  | .null | .comment | .noise => b

/-- What a token does in running text as part of a table: content goes before the table. -/
def fosteredBody (b : Construction) (t : Token) : Construction :=
  { { b with fostering := true }.body t with fostering := false }

end TidyTable.Html.Construction
