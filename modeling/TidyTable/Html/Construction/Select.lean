import TidyTable.Html.Construction.Table

/-!
# Lists of options and templates

A list of options takes options, groups of them and text. A template takes content of any kind: its
first tag decides what it is part of.
-/

namespace TidyTable.Html.Construction

/-- Closes the list of options. -/
def closeSelect (b : Construction) : Construction := (b.popThrough ["select"]).resetMode

/-- What a start tag does in a list of options. -/
def startInSelect (b : Construction) (tag : Tag) : Outcome :=
  let name := tag.name
  if name == "html" then done (b.startBody tag)
  else if name == "option" then done ((if b.inside ["option"] then b.pop else b).insert tag)
  else if name == "optgroup" then
    let b := if b.inside ["option"] then b.pop else b
    done ((if b.inside ["optgroup"] then b.pop else b).insert tag)
  else if name == "select" then
    done (if b.inScope .select ["select"] then b.closeSelect else b)
  else if ["input", "keygen", "textarea"].contains name then
    if b.inScope .select ["select"] then
      let b := b.closeSelect
      again b b.mode (.startTag tag)
    else done b
  else if name == "script" || name == "template" then done (b.startHead tag)
  else done b

/-- What an end tag does in a list of options. -/
def endInSelect (b : Construction) (name : String) : Construction :=
  if name == "optgroup" then
    let inGroup := (b.stack.drop 1).head?.any (·.named ["optgroup"])
    let b := if b.inside ["option"] && inGroup then b.pop else b
    if b.inside ["optgroup"] then b.pop else b
  else if name == "option" then if b.inside ["option"] then b.pop else b
  else if name == "select" then if b.inScope .select ["select"] then b.closeSelect else b
  else if name == "template" then b.endTemplate
  else b

/-- What a token does in a list of options. -/
def select (b : Construction) : Token → Outcome
  | .text cs => done (b.insertText cs)
  | .startTag tag => b.startInSelect tag
  | .endTag name => done (b.endInSelect name)
  | .null | .comment | .noise => done b

/-- The parts of a table that end a list of options in it. -/
def endsSelect : List String := ["caption", "table"] ++ rowGroups ++ ["tr"] ++ cells

/-- What a token does in a list of options within a table. -/
def selectInTable (b : Construction) (token : Token) : Outcome :=
  let leave :=
    let b := b.closeSelect
    again b b.mode token
  match token with
  | .startTag tag => if endsSelect.contains tag.name then leave else b.select token
  | .endTag name =>
    if endsSelect.contains name then if b.inScope .table [name] then leave else done b
    else b.select token
  | token => b.select token

/-- The mode for the content of a template that begins with a tag. -/
def templateMode (name : String) : Mode :=
  if name == "caption" || name == "colgroup" || rowGroups.contains name then .table
  else if name == "col" then .columnGroup
  else if name == "tr" then .tableBody
  else if cells.contains name then .row
  else .body

/-- What a token does in a template. -/
def template (b : Construction) (token : Token) : Outcome :=
  match token with
  | .startTag tag =>
    if headNames.contains tag.name then done (b.startHead tag)
    else
      let mode := templateMode tag.name
      again { b with templateModes := mode :: b.templateModes.drop 1 } mode token
  | .endTag name => done (if name == "template" then b.endTemplate else b)
  | token => done (b.body token)

end TidyTable.Html.Construction
