import TidyTable.Html.Fragment
import TidyTable.Text.Blank

/-!
# Selectors

A selector says which elements of a document are meant. It is built from tests of one element, and
from two elements and the relation between them. `Selector.holds` gives its meaning.

Elements are related through their parent elements. The content of a template has none, so no
relation reaches into a template or out of it.
-/

namespace TidyTable

open Html (Document NodeId Element Attribute)

namespace Html.Document

/-- The parent of a node, if it is an element. -/
def parentElement? (d : Document) (id : NodeId) : Option NodeId :=
  (d.parent? id).filter fun p => (d.element? p).isSome

/-- The elements around an element, at most so many, the innermost first. -/
def ancestors (d : Document) : Nat → NodeId → List NodeId
  | 0, _ => []
  | n + 1, id =>
    match d.parentElement? id with
    | none => []
    | some p => p :: d.ancestors n p

/-- The elements with the parent of an element, itself among them. -/
def elementsBeside (d : Document) (id : NodeId) : List NodeId :=
  match d.parent? id with
  | none => [id]
  | some p => (d.children p).filter fun c => (d.element? c).isSome

/-- The elements before an element with the same parent, the nearest first. -/
def elementsBefore (d : Document) (id : NodeId) : List NodeId :=
  ((d.elementsBeside id).takeWhile (· != id)).reverse

/-- The elements of a document that hang somewhere, in the order in which they were made. -/
def elements (d : Document) : List NodeId :=
  d.inMakingOrder.filter fun id => (d.element? id).isSome

end Html.Document

/-- How one element stands to another. -/
inductive Combinator where
  | child
  | descendant
  | next
  | later
deriving DecidableEq, Repr

/-- The elements that an element can be related to: those around it or before it. -/
def Combinator.related (c : Combinator) (d : Document) (id : NodeId) : List NodeId :=
  match c with
  | .child => (d.parentElement? id).toList
  | .descendant => d.ancestors d.nodes.size id
  | .next => (d.elementsBefore id).take 1
  | .later => d.elementsBefore id

/-! ## Attributes -/

/-- How the value of an attribute is compared with a text. -/
inductive Comparison where
  | equal
  | word
  | dashed
  | start
  | ending
  | part
deriving DecidableEq, Repr

/-- Whether the case of letters counts in a comparison. -/
inductive CaseRule where
  | counts
  | ignored
  /-- It is ignored in attributes whose values are names of things. -/
  | byName
deriving DecidableEq, Repr

/-- A test of an attribute. -/
structure AttributeTest where
  name : String
  /-- Whether attributes of other vocabularies are meant too. -/
  anySpace : Bool := false
  comparison : Option (Comparison × String) := none
  caseRule : CaseRule := .byName
deriving DecidableEq, Repr

namespace AttributeTest

/-- The attributes of `html` elements in whose values case is ignored. -/
def caseless : List String :=
  ["accept", "accept-charset", "align", "alink", "axis", "bgcolor", "charset", "checked", "clear",
    "codetype", "color", "compact", "declare", "defer", "dir", "direction", "disabled", "enctype",
    "face", "frame", "hreflang", "http-equiv", "lang", "language", "link", "media", "method",
    "multiple", "nohref", "noresize", "noshade", "nowrap", "readonly", "rel", "rev", "rules",
    "scope", "scrolling", "selected", "shape", "target", "text", "type", "valign", "valuetype",
    "vlink"]

/-- A text in lower case. -/
def lowered (s : String) : String := String.ofList (Html.lower s.toList)

/-- Whether a list stands somewhere in another. -/
def contains (part : List Char) : List Char → Bool
  | [] => part.isEmpty
  | c :: cs => part.isPrefixOf (c :: cs) || contains part cs

/-- The words of a text. -/
def words (isSpace : Char → Bool) (cs : List Char) : List (List Char) :=
  (cs.splitBy fun a b => isSpace a == isSpace b).filter fun w => !w.any isSpace

/-- Whether a value compares to a text; the empty text is no part of any value. -/
def compare (comparison : Comparison) (text value : List Char) : Bool :=
  match comparison with
  | .equal => value == text
  | .word => (words Text.isAsciiSpace value).contains text
  | .dashed => value == text || (text ++ ['-']).isPrefixOf value
  | .start => !text.isEmpty && text.isPrefixOf value
  | .ending => !text.isEmpty && text.isSuffixOf value
  | .part => !text.isEmpty && contains text value

/-- Whether the case of letters counts in the value of an attribute of an element. -/
def caseCounts (t : AttributeTest) (html : Bool) : Bool :=
  match t.caseRule with
  | .counts => true
  | .ignored => false
  | .byName => t.anySpace || !html || !caseless.contains (lowered t.name)

/-- Whether an element has an attribute that passes. -/
def holds (t : AttributeTest) (e : Element) : Bool :=
  let html := e.space == .html
  let name := if html then lowered t.name else t.name
  let folded := fun (s : String) => if t.caseCounts html then s.toList else Html.lower s.toList
  e.attributes.any fun a =>
    a.name == name && (t.anySpace || !a.foreign) &&
      t.comparison.all fun (comparison, text) => compare comparison (folded text) (folded a.value)

end AttributeTest

/-! ## Places among others -/

/-- A test of the place of an element among those beside it: the places `step * n + first` are
meant, for every `n` that is not negative. -/
structure Places where
  step : Int := 0
  first : Int := 1
  ofType : Bool := false
  fromEnd : Bool := false
deriving DecidableEq, Repr

namespace Places

/-- Whether a place, counted from one, is meant. -/
def includes (p : Places) (place : Nat) : Bool :=
  let distance := (place : Int) - p.first
  if p.step == 0 then distance == 0
  else distance % p.step == 0 && decide (0 ≤ distance / p.step)

/-- Whether an element is in a place that is meant. -/
def holds (p : Places) (d : Document) (id : NodeId) : Bool :=
  let kind := fun i => (d.element? i).map fun e => (e.space, e.name)
  let beside := (d.elementsBeside id).filter fun i => !p.ofType || kind i == kind id
  let beside := if p.fromEnd then beside.reverse else beside
  p.includes (beside.idxOf id + 1)

end Places

/-! ## Selectors -/

/-- Which elements are meant. -/
inductive Selector where
  | everything
  | nothing
  | named (name : String)
  | withId (id : String)
  | ofClass (name : String)
  | withAttribute (test : AttributeTest)
  | placed (places : Places)
  | childless
  /-- The element that `having` is asked of. -/
  | anchor
  | both (a b : Selector)
  | either (a b : Selector)
  | except (a : Selector)
  /-- The right element is meant, if it is so related to some left one. -/
  | related (left : Selector) (combinator : Combinator) (right : Selector)
  /-- The elements from which, as the anchor, some element is found. -/
  | having (found : Selector)
deriving DecidableEq, Repr

namespace Selector

/-- Whether an element has this name; those of other vocabularies are spelled exactly. -/
def hasName (e : Element) (name : String) : Bool :=
  e.name == if e.space == .html then AttributeTest.lowered name else name

/-- The value of an attribute in any vocabulary. -/
def plainAttribute? (e : Element) (name : String) : Option String :=
  (e.attributes.find? (·.name == name)).map Attribute.value

/-- Whether an element belongs to a class. -/
def hasClass (e : Element) (name : String) : Bool :=
  (plainAttribute? e "class").any fun v =>
    (AttributeTest.words Text.isBlank v.toList).contains name.toList

/-- Whether a node has neither text nor elements in it. -/
def isEmptyNode (d : Document) (id : NodeId) : Bool :=
  (d.children id).all fun c => (d.text? c).isNone && (d.element? c).isNone

/-- Whether a selector means an element. -/
def holds (d : Document) (anchorId : Option NodeId) (s : Selector) (id : NodeId) : Bool :=
  match s with
  | everything => true
  | nothing => false
  | named n => (d.element? id).any (hasName · n)
  | withId i => (d.element? id).any fun e => plainAttribute? e "id" == some i
  | ofClass n => (d.element? id).any (hasClass · n)
  | withAttribute t => (d.element? id).any t.holds
  | placed p => p.holds d id
  | childless => isEmptyNode d id
  | anchor => anchorId == some id
  | both a b => a.holds d anchorId id && b.holds d anchorId id
  | either a b => a.holds d anchorId id || b.holds d anchorId id
  | except a => !a.holds d anchorId id
  | related left c right =>
    right.holds d anchorId id && (c.related d id).any fun i => left.holds d anchorId i
  | having found => d.elements.any fun i => found.holds d (some id) i

/-- The elements of a document that are meant, in the order in which they were made. -/
def found (s : Selector) (d : Document) : List NodeId := d.elements.filter (s.holds d none)

end Selector

end TidyTable
