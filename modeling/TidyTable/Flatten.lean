import TidyTable.Table.Basic

/-!
# Flattening the nested column

The nested column is replaced by one column for every path that leads to a leaf of one of its
records. The new columns stand behind the others, in the order in which their paths are first met,
row by row and depth first. A path that is the name of another column gives way to it. A row whose
record does not have a path, or has no record at all, is empty there, and of two leaves on one path
the later one counts.
-/

namespace TidyTable

/-- A leaf of a record: the path to it and its value. -/
abbrev Leaf := String × Scalar

namespace Record

mutual

/-- The leaves below a value that stands at a path. Only an object is entered. -/
def leavesAt (separator path : String) : Json → List Leaf
  | .object fields => leavesIn separator (path ++ separator) fields
  | j => [(path, Scalar.ofJson j)]

/-- The leaves below the fields of an object, in order; every path starts with `start`. -/
def leavesIn (separator start : String) : List (String × Json) → List Leaf
  | [] => []
  | (key, value) :: rest =>
    leavesAt separator (start ++ key) value ++ leavesIn separator start rest

end

/-- The leaves of a record in the order of the text. -/
def leaves (separator : String) (record : Record) : List Leaf := leavesIn separator "" record

end Record

namespace Cell

/-- The leaves of a cell; only a record has any. -/
def leaves (separator : String) : Cell → List Leaf
  | .record fields => fields.leaves separator
  | _ => []

end Cell

/-- The elements of a list in the order in which they are first met, each once. -/
def firstMet (names : List String) : List String :=
  (names.foldl (fun met name => if name ∈ met then met else name :: met) []).reverse

/-! ## The values of a row

While the columns are filled, each row keeps the values that no column has yet. They are looked up
by path, and a value that is set stands in front of an older one on the same path.
-/

/-- The values of one row under their paths, the newest first. -/
abbrev RowValues := List (String × Scalar)

namespace RowValues

/-- Sets the value on a path. -/
def set (values : RowValues) (leaf : Leaf) : RowValues := leaf :: values

/-- The values that leaves leave behind, set one after another. -/
def ofLeaves (leaves : List Leaf) : RowValues := leaves.foldl set []

/-- The value on a path. -/
def value? (values : RowValues) (path : String) : Option Scalar := values.lookup path

/-- Takes the values on a path away. -/
def erase (values : RowValues) (path : String) : RowValues := values.filter (·.1 != path)

/-- The cell under a path: the value on it, or an empty cell. -/
def cell (values : RowValues) (path : String) : Cell :=
  ((values.value? path).map Cell.plain).getD .empty

end RowValues

/-! ## Tables -/

namespace Table

/-- Moves the values on a path to a new column. If there is a column of this name already, it keeps
its own cells, and the values stay where they are. -/
def addPath (t : Table) (rows : List RowValues) (path : String) : Table × List RowValues :=
  if t.hasColumn path then (t, rows)
  else (t.addColumn path (rows.map (·.cell path)), rows.map (·.erase path))

/-- Moves the values on each path to a new column, one path after another. -/
def addPaths (t : Table) (rows : List RowValues) : List String → Table
  | [] => t
  | path :: paths =>
    let (t, rows) := t.addPath rows path
    t.addPaths rows paths

/-- Replaces the nested column, if there is one, by the columns of its records. -/
def flatten (nestedColumn separator : String) (t : Table) : Table :=
  match t.columnIndex? nestedColumn with
  | none => t
  | some i =>
    let records := (t.columnCells i).map (Cell.leaves separator)
    (t.eraseColumn i).addPaths (records.map RowValues.ofLeaves)
      (firstMet (records.flatMap (·.map Prod.fst)))

end Table

end TidyTable
