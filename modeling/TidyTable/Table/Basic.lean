import TidyTable.Cell
import TidyTable.Table.Header

/-!
# Tables

A table has named columns and rows of cells. The operations that build one keep two facts, which
`WellFormed` states: the names are distinct, and every row has one cell for each column. They are
not part of the type, because a column may be added under any name and a row may be changed by
any function.
-/

namespace TidyTable

/-- The cells of one row, in the order of the columns. -/
abbrev Row := List Cell

/-- Named columns over rows of cells. -/
structure Table where
  columns : List String := []
  rows : List Row := []
deriving DecidableEq, Repr

namespace Table

/-- The names are distinct and every row has one cell for each column. -/
structure WellFormed (t : Table) : Prop where
  nodup_columns : t.columns.Nodup
  length_row : ∀ row ∈ t.rows, row.length = t.columns.length

instance (t : Table) : Decidable t.WellFormed :=
  if h : t.columns.Nodup ∧ ∀ row ∈ t.rows, row.length = t.columns.length then
    isTrue ⟨h.1, h.2⟩
  else isFalse fun w => h ⟨w.nodup_columns, w.length_row⟩

/-- A table without rows under the given headers. -/
def ofHeaders (raws : List String) : Table := { columns := Header.normalize raws }

/-- The place of a column. -/
def columnIndex? (t : Table) (name : String) : Option Nat := t.columns.idxOf? name

/-- Whether there is a column of this name. -/
def hasColumn (t : Table) (name : String) : Bool := t.columns.contains name

/-- Fills a row up with empty cells; a row that is too long does not fit. -/
def fit? (width : Nat) (row : Row) : Option Row :=
  if row.length ≤ width then some (row ++ List.replicate (width - row.length) Cell.empty)
  else none

/-- Adds a row at the bottom, unless it has more cells than there are columns. -/
def push? (t : Table) (row : Row) : Option Table :=
  (fit? t.columns.length row).map fun row => { t with rows := t.rows ++ [row] }

/-- Adds rows at the bottom, unless one of them does not fit. -/
def pushAll? (t : Table) (rows : List Row) : Option Table :=
  (rows.mapM (fit? t.columns.length)).map fun rows => { t with rows := t.rows ++ rows }

/-- The cells of a column, an empty one where a row is too short. -/
def columnCells (t : Table) (i : Nat) : List Cell := t.rows.map fun row => row.getD i Cell.empty

/-- Removes the column at a place. -/
def eraseColumn (t : Table) (i : Nat) : Table :=
  { columns := t.columns.eraseIdx i, rows := t.rows.map (·.eraseIdx i) }

/-- Adds a column on the right, with one cell for each row. -/
def addColumn (t : Table) (name : String) (cells : List Cell) : Table :=
  { columns := t.columns ++ [name], rows := t.rows.zipWith (fun row cell => row ++ [cell]) cells }

/-- Applies a function to every row. -/
def mapRows (f : Row → Row) (t : Table) : Table := { t with rows := t.rows.map f }

/-! ## The row index

A table is written with a column in front that counts its rows under a blank header. Read back,
that header has the name of a blank first column.
-/

/-- Whether the first column is a row index: without a name of its own, and counting the rows. -/
def hasIndex (t : Table) : Bool :=
  t.columns.head? == some (Header.unnamed 0) &&
    t.rows.zipIdx.all fun (row, n) =>
      match row.head?.bind Cell.scalar? with
      | some value => value.isOrdinal n
      | none => false

/-- Removes the first column if it is a row index. -/
def dropIndex (t : Table) : Table := if t.hasIndex then t.eraseColumn 0 else t

end Table

end TidyTable
