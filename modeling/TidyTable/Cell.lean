import TidyTable.Decimal.Layout
import TidyTable.Json.Parser
import TidyTable.Json.Printer
import TidyTable.Text.Blank

/-!
# Cells

What stands in one place of a table. A cell is classified once, when it is read: an empty text is an
empty cell, a text between angle brackets is markup, a JSON object in the nested column is a record,
and every other text stays a text. Nothing later looks at a text again to decide what it is.

Rendering a cell forgets the kind and keeps the text, so that what was read as text is written as
it was.
-/

namespace TidyTable

/-- A plain value. -/
inductive Scalar where
  | empty
  | text (value : String)
  | int (value : Int64)
  | float (value : Float)
  | bool (value : Bool)
  | dateTime (serial : Float)
deriving DecidableEq, Repr

namespace Scalar

/-- A double in a cell: never an exponent, and one decimal place for whole numbers below `10 ^ 16`,
so that they are not taken for integers. A missing number has no text. -/
def layout : Decimal.Layout where
  positional _ := true
  pointZero power := power < 16
  tie := .up
  nan := []

/-- The text of a value. -/
def render : Scalar → String
  | .empty => ""
  | .text s => s
  | .int i => Decimal.integerText i.toInt
  | .float x => String.ofList (layout.render x)
  | .dateTime x => String.ofList (layout.render x)
  | .bool true => "True"
  | .bool false => "False"

/-- Whether there is no value. -/
def isEmpty : Scalar → Bool
  | .empty => true
  | _ => false

/-- The value of a JSON leaf. An integer that needs the sign bit of an unsigned word becomes a
double, and an array or an object becomes its text. -/
def ofJson : Json → Scalar
  | .null => .empty
  | .bool b => .bool b
  | .number (.integer i) =>
    if Int64.minValue.toInt ≤ i ∧ i ≤ Int64.maxValue.toInt then .int (Int64.ofInt i)
    else .float (Decimal.nearest i)
  | .number (.float x) => .float x
  | .string s => .text s
  | j => .text j.text

/-- The largest count; a double that exceeds it counts as this. -/
def maxCount : Nat := 0xffffffffffffffff

/-- Whether a value is the number `n`: as a double without a fraction, or as a text that reads as
the number once the blanks around it are gone. -/
def isOrdinal (n : Nat) : Scalar → Bool
  | .text s => Decimal.readNatural? (Text.trim s.toList) == some n
  | .int i => i.toInt == (n : Int)
  | .float x =>
    match Decimal.whole? x with
    -- a larger double stands for the largest count
    | some (.ofNat w) => min w maxCount == n
    | _ => false
  | _ => false

end Scalar

/-- One cell of a table. -/
inductive Cell where
  | plain (value : Scalar)
  | markup (text : String)
  | record (fields : Record)
deriving DecidableEq, Repr

namespace Cell

/-- The empty cell. -/
def empty : Cell := .plain .empty

/-- A cell with a text that is not looked into. -/
def text (s : String) : Cell := .plain (.text s)

/-- Whether a text stands between angle brackets. -/
def looksLikeMarkup (s : String) : Bool :=
  s.toList.head? == some '<' && s.toList.getLast? == some '>'

/-- The record that a text holds, if it holds one and nothing else but blanks. -/
def readRecord? (s : String) : Option Record :=
  match Json.parse? (Text.trim s.toList) with
  | some (.object fields) => some fields
  | _ => none

/-- Classifies a text. Only a cell of the nested column can be a record. -/
def ofText (nested : Bool) (s : String) : Cell :=
  if s.isEmpty then empty
  else
    match if nested then readRecord? s else none with
    | some fields => .record fields
    | none => if looksLikeMarkup s then .markup s else text s

/-- Classifies a value; only a text can be more than plain. -/
def ofScalar (nested : Bool) : Scalar → Cell
  | .text s => ofText nested s
  | value => .plain value

/-- The plain value of a cell that has one. -/
def scalar? : Cell → Option Scalar
  | .plain value => some value
  | _ => none

/-- Whether a cell is empty. An empty text is not. -/
def isEmpty (cell : Cell) : Bool := cell.scalar?.any Scalar.isEmpty

/-- The text of a cell. -/
def render : Cell → String
  | .plain value => value.render
  | .markup s => s
  | .record fields => fields.text

end Cell

end TidyTable
