import TidyTable.Cleaning
import TidyTable.Failure
import TidyTable.Flatten

/-!
# The clean-up of a table

Every cell is cleaned, and then the nested column is flattened. A processor is made from settings
that are valid and whose selector can be read; nothing can go wrong afterwards.
-/

namespace TidyTable

/-- What is needed to clean up tables. -/
structure Processor where
  settings : Settings
  cleaner : Cleaner
deriving DecidableEq, Repr

namespace Processor

/-- The processor for some settings. -/
def ofSettings (s : Settings) : Except Failure Processor :=
  match s.fault? with
  | some fault => .error (.badSettings fault)
  | none =>
    match Cleaner.ofSettings? s with
    | some cleaner => .ok { settings := s, cleaner }
    | none => .error .badMarkerTag

/-- Cleans the cells of a row. -/
def processRow (p : Processor) (row : Row) : Row := p.cleaner.cleanRow row

/-- Flattens the nested column. -/
def flatten (p : Processor) (t : Table) : Table :=
  t.flatten p.settings.nestedColumn p.settings.keySeparator

/-- Cleans up a table. -/
def processTable (p : Processor) (t : Table) : Table := p.flatten (t.mapRows p.processRow)

end Processor

end TidyTable
