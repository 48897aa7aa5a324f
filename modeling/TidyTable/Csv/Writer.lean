import TidyTable.Csv.Record

/-!
# Writing records

Fields stand in quotes only where a reader would otherwise take them apart: if they hold the
delimiter, a quote or a byte that ends a line. A quote inside quotes is written twice. A record
of one empty field is written as a pair of quotes, because an empty line is no record.
-/

namespace TidyTable.Csv

open Text (Bytes)

/-- Whether a field with this byte must stand in quotes. -/
def needsQuotes (delimiter b : UInt8) : Bool := b == delimiter || b == quote || isTerminator b

/-- A field in quotes. -/
def quoteField (bs : Bytes) : Bytes :=
  quote :: (bs.flatMap (fun b => if b = quote then [quote, quote] else [b]) ++ [quote])

/-- A field as it is written. -/
def writeField (delimiter : UInt8) (bs : Bytes) : Bytes :=
  if bs.any (needsQuotes delimiter) then quoteField bs else bs

/-- The fields of a record with the delimiter between them. -/
def writeFields (delimiter : UInt8) : List Bytes → Bytes
  | [] => []
  | [field] => writeField delimiter field
  | field :: rest => writeField delimiter field ++ delimiter :: writeFields delimiter rest

/-- A record without the end of its line. -/
def writeRecord (delimiter : UInt8) (fields : List Bytes) : Bytes :=
  let bs := writeFields delimiter fields
  -- two fields have a delimiter between them, so only a single empty field leaves nothing
  if bs.isEmpty then [quote, quote] else bs

/-- Records, each on a line of its own. -/
def writeRecords (delimiter : UInt8) (terminator : Bytes) (rows : List (List Bytes)) : Bytes :=
  rows.flatMap fun fields => writeRecord delimiter fields ++ terminator

end TidyTable.Csv
