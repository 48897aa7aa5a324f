import TidyTable.Html.Construction.Basic

/-!
# Formatting

A block that begins in formatted text, or formatting that ends in another order than it began, would
tear the tree apart. Formatting is therefore kept in a list of its own, and is opened again in every
block that it reaches into. The list ends at a marker where an element stands that no formatting
leaves.

An end tag of formatting whose element holds an open block moves that block: the formatting is split
into a copy around the content of the block and the rest outside of it.
-/

namespace TidyTable.Html

namespace Formatting

/-- The number of an entry that is an element. -/
def id? : Formatting → Option NodeId
  | .marker => none
  | .element id _ => some id

/-- Whether an entry is an element that an equal tag made. -/
def isLike (tag : Tag) : Formatting → Bool
  | .marker => false
  | .element _ t =>
    t.name == tag.name && t.attributes.length == tag.attributes.length
      && t.attributes.all tag.attributes.contains

/-- Whether an entry is an element of this name. -/
def hasName (name : String) : Formatting → Bool
  | .marker => false
  | .element _ t => t.name == name

/-- The entries up to the newest marker. -/
def toMarker (entries : List Formatting) : List Formatting := entries.takeWhile (· != .marker)

/-- Drops the entry of an element. -/
def erase (id : NodeId) (entries : List Formatting) : List Formatting :=
  entries.filter (·.id? != some id)

/-- Puts another entry in the place of an element's. -/
def replace (id : NodeId) (entry : Formatting) (entries : List Formatting) : List Formatting :=
  entries.map fun f => if f.id? == some id then entry else f

/-- Puts an entry just before that of an element: it is newer by one. -/
def insertAfter (id : NodeId) (entry : Formatting) : List Formatting → List Formatting
  | [] => []
  | f :: rest => if f.id? == some id then entry :: f :: rest else f :: insertAfter id entry rest

/-- How many equal formattings may be in force at once. -/
def limit : Nat := 3

/-- Makes room for one more formatting: of too many equal ones the oldest is dropped. -/
def makeRoom (tag : Tag) (entries : List Formatting) : List Formatting :=
  let equal := (toMarker entries).filter (isLike tag)
  match equal.getLast? with
  | some oldest => if limit ≤ equal.length then entries.erase oldest else entries
  | none => entries

end Formatting

namespace Construction

/-- Whether a formatting needs not be opened again. -/
def isSettled (b : Construction) : Formatting → Bool
  | .marker => true
  | .element id _ => b.stack.any (·.id == id)

/-- Opens formattings again, the oldest first, and gives their new entries, the newest first. -/
def reopen (b : Construction) : List Formatting → Construction × List Formatting
  | [] => (b, [])
  | .marker :: rest => reopen b rest
  | .element _ tag :: rest =>
    let (b, entries) := reopen b rest
    let b := b.insert tag
    (b, .element b.current.id tag :: entries)

/-- Opens the formatting again that a block has cut. -/
def reconstruct (b : Construction) : Construction :=
  let closed := b.formatting.takeWhile (!b.isSettled ·)
  let kept := b.formatting.dropWhile (!b.isSettled ·)
  let (b, entries) := b.reopen closed
  { b with formatting := entries ++ kept }

/-- Adds the element of a tag as formatting. -/
def insertFormatting (b : Construction) (tag : Tag) : Construction :=
  let b := { b with formatting := Formatting.makeRoom tag b.formatting }.insert tag
  { b with formatting := .element b.current.id tag :: b.formatting }

/-- Sets a border for formatting. -/
def pushMarker (b : Construction) : Construction :=
  { b with formatting := .marker :: b.formatting }

/-- Drops the formatting up to the newest border, and the border. -/
def clearToMarker (b : Construction) : Construction :=
  { b with formatting := (b.formatting.dropWhile (· != .marker)).drop 1 }

/-- Drops an element from the formatting in force. -/
def unformat (b : Construction) (id : NodeId) : Construction :=
  { b with formatting := Formatting.erase id b.formatting }

/-- Closes the innermost element of a name and what is open in it, unless an element with rules of
its own stands between. -/
def closeNamed (b : Construction) (name : String) : Construction :=
  match b.stack.find? fun o => o.named [name] || o.named special with
  | some o =>
    if o.named [name] then { b with stack := (b.stack.dropWhile (·.id != o.id)).drop 1 } else b
  | none => b

/-! ## Formatting that ends around a block -/

/-- What the copies that are made between a block and the formatting around it lead to. -/
structure Split where
  document : Document
  formatting : List Formatting
  /-- The topmost node that holds the block. -/
  last : NodeId
  /-- The copy that the block was put into, if there is one. -/
  bookmark : Option NodeId := none
  /-- The elements that stay open between the block and the formatting, the innermost first. -/
  between : List Open := []

/-- How many formattings between a block and the one that ends are copied. -/
def copyLimit : Nat := 3

/-- Copies one element that is open between a block and the formatting that ends. Elements beyond a
count, and those that are no formatting, are dropped instead. -/
def Split.step (block : NodeId) (s : Split) (o : Open) (count : Nat) : Split :=
  let entry := s.formatting.find? (·.id? == some o.id)
  match entry with
  | some (.element _ tag) =>
    if copyLimit < count then { s with formatting := Formatting.erase o.id s.formatting }
    else
      let (id, d) := s.document.addElement { name := tag.name, attributes := tag.attributes }
      { document := (d.detach s.last).append id s.last
        formatting := Formatting.replace o.id (.element id tag) s.formatting
        last := id
        bookmark := if s.last == block then some id else s.bookmark
        between := s.between ++ [{ id, name := tag.name }] }
  | _ => s

/-- Ends a formatting around the block nearest to it. `inner` is open inside the block, `between`
between the block and the formatting, `outer` around the formatting; each has its innermost element
first. -/
def splitAround (b : Construction) (id : NodeId) (tag : Tag) (block : Open)
    (inner between : List Open) (ancestor : Open) (outer : List Open) : Construction :=
  let s := (between.zipIdx 1).foldl (fun s (o, count) => s.step block.id o count)
    ({ document := b.document, formatting := b.formatting, last := block.id } : Split)
  -- the block with its copies leaves the formatting and goes to what is around it
  let b := { b with document := s.document.detach s.last }
  let place := b.placeIn ancestor
  let d := put b.document s.last place
  -- what was in the block is formatted by a copy inside of it
  let (copy, d) := d.addElement { name := tag.name, attributes := tag.attributes }
  let d := (d.moveChildren block.id copy).append block.id copy
  let entry := Formatting.element copy tag
  let formatting :=
    match s.bookmark with
    | none => Formatting.replace id entry s.formatting
    | some mark => Formatting.erase id (Formatting.insertAfter mark entry s.formatting)
  { b with
    document := d
    formatting
    stack := inner ++ { id := copy, name := tag.name } :: block :: s.between ++ ancestor :: outer }

/-- Ends the newest formatting of a name once. The answer says whether there may be more to end. -/
def endFormattingOnce (b : Construction) (name : String) : Bool × Construction :=
  match (Formatting.toMarker b.formatting).find? (Formatting.hasName name) with
  | some (.element id tag) =>
    let inside := b.stack.takeWhile (·.id != id)
    match b.stack.dropWhile (·.id != id) with
    -- the element is closed already
    | [] => (false, b.unformat id)
    | _ :: around =>
      if !Scope.general.sees (·.id == id) b.stack then (false, b)
      else
        let above := inside.reverse
        match above.dropWhile (!·.named special), around with
        -- no block is open in it
        | [], _ => (false, { b.unformat id with stack := around })
        | _, [] => (false, b)
        | block :: blocks, ancestor :: outer =>
          let between := (above.takeWhile (!·.named special)).reverse
          (true, b.splitAround id tag block blocks.reverse between ancestor outer)
  | _ => (false, b.closeNamed name)

/-- How many formattings one end tag can end. -/
def endLimit : Nat := 8

/-- Ends formattings of a name, as long as there are more to end. -/
def endFormattingTimes (name : String) : Nat → Construction → Construction
  | 0, b => b
  | n + 1, b =>
    match b.endFormattingOnce name with
    | (true, b) => endFormattingTimes name n b
    | (false, b) => b

/-- Ends the formatting of a name. -/
def endFormatting (b : Construction) (name : String) : Construction :=
  let o := b.current
  if o.named [name] && !b.formatting.any (·.id? == some o.id) then b.pop
  else endFormattingTimes name endLimit b

/-- Ends a link within a link: links do not nest. -/
def endOuterLink (b : Construction) : Construction :=
  match (Formatting.toMarker b.formatting).find? (Formatting.hasName "a") with
  | some (.element id _) => ((b.endFormatting "a").unformat id).forget id
  | _ => b

end Construction

end TidyTable.Html
