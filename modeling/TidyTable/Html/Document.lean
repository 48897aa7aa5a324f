import TidyTable.Html.Token

/-!
# Documents

The tree of a fragment. Nodes are numbered in the order in which they are made and keep their number
wherever they are moved, so a document has two orders: that of the numbers and that of the text,
which is the order of a walk from the root that visits each node before its children.

Every document starts with two nodes, a fragment and the `html` element in it, below which all
content goes. The content of a template hangs in a fragment of its own, so that it has no parent
element.
-/

namespace TidyTable.Html

/-- The vocabularies that an element can belong to. -/
inductive Space where
  | html
  | svg
  | mathml
deriving DecidableEq, Repr

/-- An element without its place in the tree. -/
structure Element where
  space : Space := .html
  name : String
  attributes : List Attribute := []
deriving DecidableEq, Repr

/-- The value of the attribute of a name that belongs to no vocabulary of its own. -/
def Element.attribute? (e : Element) (name : String) : Option String :=
  (e.attributes.find? fun a => a.name == name && !a.foreign).map Attribute.value

/-- The number of a node. -/
abbrev NodeId := Nat

/-- What a node is. -/
inductive Content where
  | fragment
  | element (e : Element)
  | text (s : String)
deriving DecidableEq, Repr

/-- A node with its place in the tree. -/
structure Node where
  content : Content
  parent : Option NodeId := none
  children : List NodeId := []
deriving DecidableEq, Repr

/-- The element of a node that is one. -/
def Node.element? (n : Node) : Option Element :=
  match n.content with
  | .element e => some e
  | _ => none

/-- Nodes by number. -/
structure Document where
  nodes : Array Node
deriving DecidableEq, Repr

namespace Document

/-- The fragment that everything belongs to. -/
def fragmentId : NodeId := 0

/-- The element that all content goes below. -/
def rootId : NodeId := 1

/-- The document without content. -/
def empty : Document :=
  { nodes := #[{ content := .fragment, children := [rootId] },
      { content := .element { name := "html" }, parent := some fragmentId }] }

/-- The node of a number. -/
def node? (d : Document) (id : NodeId) : Option Node := d.nodes[id]?

/-- The element of a number. -/
def element? (d : Document) (id : NodeId) : Option Element := (d.node? id).bind Node.element?

/-- The parent of a node that has one. -/
def parent? (d : Document) (id : NodeId) : Option NodeId := (d.node? id).bind Node.parent

/-- The children of a node. -/
def children (d : Document) (id : NodeId) : List NodeId :=
  match d.node? id with
  | some n => n.children
  | none => []

/-- Changes a node. -/
def modify (d : Document) (id : NodeId) (f : Node → Node) : Document :=
  { nodes := d.nodes.modify id f }

/-! ## Making and moving nodes -/

/-- Makes a node that hangs nowhere. -/
def add (d : Document) (content : Content) : NodeId × Document :=
  (d.nodes.size, { nodes := d.nodes.push { content } })

/-- Takes a node out of its place. -/
def detach (d : Document) (id : NodeId) : Document :=
  match d.parent? id with
  | none => d
  | some p =>
    (d.modify p fun n => { n with children := n.children.filter (· != id) }).modify id fun n =>
      { n with parent := none }

/-- Moves a node to the end of the children of another. -/
def append (d : Document) (parent id : NodeId) : Document :=
  ((d.detach id).modify parent fun n => { n with children := n.children ++ [id] }).modify id
    fun n => { n with parent := some parent }

/-- A list with an element put before another. -/
def insertedBefore (mark id : NodeId) : List NodeId → List NodeId
  | [] => []
  | x :: xs => if x == mark then id :: x :: xs else x :: insertedBefore mark id xs

/-- Moves a node just before another one that has a parent. -/
def insertBefore (d : Document) (mark id : NodeId) : Document :=
  let d := d.detach id
  match d.parent? mark with
  | none => d
  | some p =>
    (d.modify p fun n => { n with children := insertedBefore mark id n.children }).modify id
      fun n => { n with parent := some p }

/-- Moves all children of a node to the end of those of another. -/
def moveChildren (d : Document) (source target : NodeId) : Document :=
  (d.children source).foldl (fun d id => d.append target id) d

/-- Makes a node for an element. A template gets the fragment that its content goes into. -/
def addElement (d : Document) (e : Element) : NodeId × Document :=
  let (id, d) := d.add (.element e)
  if e.space == .html && e.name == "template" then
    let (content, d) := d.add .fragment
    (id, d.append id content)
  else (id, d)

/-- The node that the content of an element goes into. -/
def contentOf (d : Document) (id : NodeId) : NodeId :=
  match d.element? id with
  | some e =>
    if e.space == .html && e.name == "template" then (d.children id).headD id else id
  | none => id

/-- Gives an element the attributes that it does not have yet. -/
def addMissing (d : Document) (id : NodeId) (attributes : List Attribute) : Document :=
  d.modify id fun n =>
    match n.content with
    | .element e =>
      let missing := attributes.filter fun a => (e.attribute? a.name).isNone
      { n with content := .element { e with attributes := e.attributes ++ missing } }
    | _ => n

/-! ## The two orders -/

/-- The nodes below a node and the node itself, each before its children, down to a depth. -/
def walk (d : Document) : Nat → NodeId → List NodeId
  | 0, _ => []
  | depth + 1, id => id :: (d.children id).flatMap (d.walk depth)

/-- All nodes below the root element, and itself, in the order of the text. -/
def inTextOrder (d : Document) : List NodeId := d.walk d.nodes.size rootId

/-- All nodes that hang somewhere, in the order in which they were made. -/
def inMakingOrder (d : Document) : List NodeId :=
  (List.range d.nodes.size).filter fun id => (d.parent? id).isSome

/-- The text of a node that is one. -/
def text? (d : Document) (id : NodeId) : Option String :=
  match d.node? id with
  | some { content := .text s, .. } => some s
  | _ => none

/-- The text of the document. -/
def text (d : Document) : String := String.join (d.inTextOrder.filterMap d.text?)

end Document

end TidyTable.Html
