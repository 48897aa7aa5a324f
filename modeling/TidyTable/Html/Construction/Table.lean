import TidyTable.Html.Construction.Body

/-!
# Tables

A table takes only its parts, and each part only the next smaller ones. A tag that comes too early
opens the parts that lie between, and one that comes too late closes the parts that are open and is
left for the rules outside of them. Anything else goes before the table, except white space, which
stays where it is if nothing else stands beside it.
-/

namespace TidyTable.Html.Construction

/-- The elements that the rules of a table look up to. -/
def tableContext : List String := ["html", "table", "template"]

/-- The elements that the rules of a row group look up to. -/
def groupContext : List String := ["html", "tbody", "tfoot", "thead", "template"]

/-- The elements that the rules of a row look up to. -/
def rowContext : List String := ["html", "tr", "template"]

/-- The tags of the parts of a table. -/
def partTags : List String := ["caption", "col", "colgroup"] ++ rowGroups ++ cells ++ ["tr"]

/-! ## Directly in a table -/

/-- Whether an input does not show. -/
def isHidden (tag : Tag) : Bool :=
  (tag.attribute? "type").any fun v => lower v.toList == "hidden".toList

/-- What a start tag does directly in a table. -/
def startTable (b : Construction) (tag : Tag) : Outcome :=
  let token := Token.startTag tag
  let name := tag.name
  if name == "caption" then
    done { ((b.popTo tableContext).pushMarker.insert tag) with mode := .caption }
  else if name == "colgroup" then
    done { (b.popTo tableContext).insert tag with mode := .columnGroup }
  else if name == "col" then
    again ((b.popTo tableContext).insertPhantom "colgroup") .columnGroup token
  else if rowGroups.contains name then
    done { (b.popTo tableContext).insert tag with mode := .tableBody }
  else if name == "tr" || cells.contains name then
    again ((b.popTo tableContext).insertPhantom "tbody") .tableBody token
  else if name == "table" then
    if b.inScope .table ["table"] then
      let b := (b.popThrough ["table"]).resetMode
      again b b.mode token
    else done b
  else if ["style", "script", "template"].contains name then done (b.startHead tag)
  else if name == "input" && isHidden tag then done (b.insertVoid tag)
  else if name == "form" then
    if b.within "template" || b.form.isSome then done b
    else
      let b := b.insert tag
      done { b.pop with form := some b.current.id }
  else done (b.fosteredBody token)

/-- What an end tag does directly in a table. -/
def endTable (b : Construction) (name : String) : Outcome :=
  if name == "table" then
    done (if b.inScope .table ["table"] then (b.popThrough ["table"]).resetMode else b)
  else if name == "body" || name == "html" || partTags.contains name then done b
  else if name == "template" then done b.endTemplate
  else done (b.fosteredBody (.endTag name))

/-- What text does directly in a table: it waits for what comes next to it. -/
def textInTable (b : Construction) (token : Token) : Outcome :=
  if b.inside tableParts then again { b with returnMode := b.mode } .tableText token
  else done (b.fosteredBody token)

/-- What a token does directly in a table. -/
def table (b : Construction) (token : Token) : Outcome :=
  match token with
  | .text _ | .null => b.textInTable token
  | .startTag tag => b.startTable tag
  | .endTag name => b.endTable name
  | .comment | .noise => done b

/-- Puts the text that waits in its place: before the table unless it is all white space. -/
def settleText (b : Construction) : Construction :=
  let pending := b.pending.reverse
  let b := { b with pending := [] }
  if pending.all (·.all Text.isAsciiSpace) then pending.foldl insertText b
  else pending.foldl (fun b cs => b.fosteredBody (.text cs)) b

/-- What a token does while text waits in a table. -/
def tableText (b : Construction) (token : Token) : Outcome :=
  match token with
  | .text cs => done { b with pending := cs :: b.pending }
  | .null => done b
  | token => again b.settleText b.returnMode token

/-! ## In the parts of a table -/

/-- What a token does in the caption of a table. -/
def caption (b : Construction) (token : Token) : Outcome :=
  let close := fun (b : Construction) => (b.closeImplied.popThrough ["caption"]).clearToMarker
  let leave :=
    if b.inScope .table ["caption"] then again (close b) .table token else done b
  match token with
  | .startTag tag => if partTags.contains tag.name then leave else done (b.body token)
  | .endTag name =>
    if name == "caption" then
      done (if b.inScope .table ["caption"] then { close b with mode := .table } else b)
    else if name == "table" then leave
    else if name == "body" || name == "html" || partTags.contains name then done b
    else done (b.body token)
  | token => done (b.body token)

/-- What a token does in a group of columns. -/
def columnGroup (b : Construction) (token : Token) : Outcome :=
  let leave := fun (b : Construction) (token : Token) =>
    if b.inside ["colgroup"] then again b.pop .table token else done b
  match token with
  | .text cs =>
    let blank := cs.takeWhile Text.isAsciiSpace
    let rest := cs.dropWhile Text.isAsciiSpace
    let b := if blank.isEmpty then b else b.insertText blank
    if rest.isEmpty then done b
    else if b.inside ["colgroup"] then leave b (.text rest)
    else
      let blank := rest.filter Text.isAsciiSpace
      done (if blank.isEmpty then b else b.insertText blank)
  | .startTag tag =>
    if tag.name == "html" then done (b.body token)
    else if tag.name == "col" then done (b.insertVoid tag)
    else if tag.name == "template" then done (b.startHead tag)
    else leave b token
  | .endTag name =>
    if name == "colgroup" then
      done (if b.inside ["colgroup"] then { b.pop with mode := .table } else b)
    else if name == "col" then done b
    else if name == "template" then done b.endTemplate
    else leave b token
  | .null => leave b token
  | .comment | .noise => done b

/-- What a token does in a row group. -/
def tableBody (b : Construction) (token : Token) : Outcome :=
  let leave :=
    if b.inScope .table ["table", "tbody", "tfoot"] then
      again (b.popTo groupContext).pop .table token
    else done b
  match token with
  | .startTag tag =>
    if tag.name == "tr" then done { (b.popTo groupContext).insert tag with mode := .row }
    else if cells.contains tag.name then
      again ((b.popTo groupContext).insertPhantom "tr") .row token
    else if partTags.contains tag.name then leave
    else b.table token
  | .endTag name =>
    if rowGroups.contains name then
      done (if b.inScope .table [name] then { (b.popTo groupContext).pop with mode := .table }
        else b)
    else if name == "table" then leave
    else if name == "body" || name == "html" || partTags.contains name then done b
    else b.table token
  | token => b.table token

/-- What a token does in a row. -/
def row (b : Construction) (token : Token) : Outcome :=
  let leave :=
    if b.inScope .table ["tr"] then again (b.popTo rowContext).pop .tableBody token else done b
  match token with
  | .startTag tag =>
    if cells.contains tag.name then
      done { ((b.popTo rowContext).insert tag).pushMarker with mode := .cell }
    else if partTags.contains tag.name then leave
    else b.table token
  | .endTag name =>
    if name == "tr" then
      done (if b.inScope .table ["tr"] then { (b.popTo rowContext).pop with mode := .tableBody }
        else b)
    else if name == "table" then leave
    else if rowGroups.contains name then if b.inScope .table [name] then leave else done b
    else if name == "body" || name == "html" || partTags.contains name then done b
    else b.table token
  | token => b.table token

/-- What a token does in a cell. -/
def cell (b : Construction) (token : Token) : Outcome :=
  let close := fun (names : List String) => (b.closeImplied.popThrough names).clearToMarker
  match token with
  | .startTag tag =>
    if partTags.contains tag.name then
      if b.inScope .table cells then again (close cells) .row token else done b
    else done (b.body token)
  | .endTag name =>
    if cells.contains name then
      done (if b.inScope .table [name] then { close [name] with mode := .row } else b)
    else if name == "table" || name == "tr" || rowGroups.contains name then
      if b.inScope .table [name] then again (close cells) .row token else done b
    else if ["body", "caption", "col", "colgroup", "html"].contains name then done b
    else done (b.body token)
  | token => done (b.body token)

end TidyTable.Html.Construction
