import TidyTable.Cell
import TidyTable.Selector.Parser
import TidyTable.Settings.Basic
import TidyTable.Table.Basic

/-!
# Cleaning cells

A cell of markup is reduced to a text. If the element that the marker selects carries a parameter,
that is the text; otherwise it is all text of the fragment. The marker is the first element that the
selector means in the order in which the elements came to be. Other cells stay as they are.
-/

namespace TidyTable

/-- How markup is reduced. -/
structure Cleaner where
  /-- Means the element that may carry a parameter. -/
  marker : Selector
  typeAttribute : String
  typeValue : String
  valueAttribute : String
deriving DecidableEq, Repr

namespace Cleaner

/-- The cleaner of some settings, unless their selector cannot be read. -/
def ofSettings? (s : Settings) : Option Cleaner :=
  (Selector.parse? s.markerTag).map fun marker =>
    { marker
      typeAttribute := s.markerTypeAttr
      typeValue := s.markerTypeValue
      valueAttribute := s.markerValueAttr }

/-- The parameter that an element carries. -/
def parameter? (c : Cleaner) (e : Html.Element) : Option String :=
  if e.attribute? c.typeAttribute == some c.typeValue then e.attribute? c.valueAttribute else none

/-- The element that the marker selects. -/
def markerElement? (c : Cleaner) (d : Html.Document) : Option Html.Element :=
  (c.marker.found d).head?.bind d.element?

/-- What a document is reduced to. -/
def reduce (c : Cleaner) (d : Html.Document) : String :=
  ((c.markerElement? d).bind c.parameter?).getD d.text

/-- What markup is reduced to; a text that is no markup is not. -/
def extract? (c : Cleaner) (markup : String) : Option String :=
  if Cell.looksLikeMarkup markup then some (c.reduce (Html.Document.ofFragment markup.toList))
  else none

/-- Cleans a cell. -/
def clean (c : Cleaner) : Cell → Cell
  | .markup s => .text ((c.extract? s).getD s)
  | cell => cell

/-- Cleans the cells of a row. -/
def cleanRow (c : Cleaner) (row : Row) : Row := row.map c.clean

end Cleaner

end TidyTable
