import TidyTable.Cell

/-!
# Workbooks

A workbook is a list of sheets, and a sheet is a grid of entries from its upper left corner on. An
entry is what a file stores in a place, which is more than a value: a file also stores the kinds of
error that a formula can end in, and the texts that formulas gave.
-/

namespace TidyTable

/-- What a sheet stores in one place; the empty value is nothing at all. -/
inductive Entry where
  | value (v : Scalar)
  /-- The error that a formula ended in. -/
  | error (code : String)
  /-- The text that a formula gave. -/
  | formulaText (s : String)
deriving DecidableEq, Repr

/-- A sheet: its name and its rows of entries. -/
structure Sheet where
  name : String
  cells : List (List Entry)
deriving DecidableEq, Repr

/-- The sheets of a file. -/
structure Workbook where
  sheets : List Sheet
deriving DecidableEq, Repr

namespace Entry

/-- The errors that a formula can end in. -/
def errorCodes : List String :=
  ["#DIV/0!", "#N/A", "#NAME?", "#NULL!", "#NUM!", "#REF!", "#VALUE!"]

/-- The value of an entry, unless it is an error that is not known. An empty text is no value, but
what a formula gave is one even then; it is a number if it can be read as one. -/
def read? : Entry → Option Scalar
  | .value (.text s) => some (if s.isEmpty then .empty else .text s)
  | .value v => some v
  | .error code => if errorCodes.contains code then some (.text code) else none
  | .formulaText s =>
    match Decimal.readFloat? s.toList with
    | some x => some (.float x)
    | none => some (.text s)

end Entry

/-! ## The part of a grid that is used -/

/-- Rows of values. -/
abbrev Grid := List (List Scalar)

namespace Grid

/-- How many values at the front of a row are empty; all of them if the row is. -/
def blanks (row : List Scalar) : Nat := (row.takeWhile Scalar.isEmpty).length

/-- How far a row reaches. -/
def reach (row : List Scalar) : Nat := row.length - blanks row.reverse

/-- Whether a row holds nothing. -/
def isBlank (row : List Scalar) : Bool := row.all Scalar.isEmpty

/-- Drops the rows below the last one that holds something. -/
def dropBelow (g : Grid) : Grid := (g.reverse.dropWhile isBlank).reverse

/-- How far the longest row reaches. -/
def width (g : Grid) : Nat := g.foldl (fun w row => max w (reach row)) 0

/-- The first column that holds something. -/
def start (g : Grid) : Nat :=
  g.foldl (fun s row => if isBlank row then s else min s (blanks row)) (width g)

/-- Cuts a row to the columns from one place to another, filled up with empty values. -/
def cut (start width : Nat) (row : List Scalar) : List Scalar :=
  let cells := (row.take width).drop start
  cells ++ List.replicate (width - start - cells.length) .empty

/-- The rectangle from the upper left corner to the last row and column that hold something. -/
def fromCorner (g : Grid) : Grid :=
  let g := dropBelow g
  g.map (cut 0 (width g))

/-- The rectangle of the rows and columns between the first and the last that hold something. -/
def used (g : Grid) : Grid :=
  let g := (dropBelow g).dropWhile isBlank
  g.map (cut (start g) (width g))

end Grid

end TidyTable
