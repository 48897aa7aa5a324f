import TidyTable.Decimal.Natural

/-!
# Column names

Names of columns are distinct and none is blank. A blank header is named after its place, and a
header that is taken gets a number behind a point. Headers are named from left to right, so a name
that is made for one may be the text of a later one, which then is the one to be numbered.

Each base is numbered from where its last number left off. This gives the same names as looking for
the least free number each time, because the names that are taken stay taken.
-/

namespace TidyTable.Header

/-- The name of a column whose header at this place is blank. -/
def unnamed (place : Nat) : String := "Unnamed: " ++ Decimal.naturalText place

/-- A name with a number behind it. -/
def numbered (base : String) (k : Nat) : String := base ++ "." ++ Decimal.naturalText k

/-- The names that are given, the newest first, and how far each base is numbered. -/
structure Naming where
  taken : List String := []
  counts : List (String × Nat) := []

namespace Naming

/-- The last number that was given to a base. -/
def count (naming : Naming) (base : String) : Nat := (naming.counts.lookup base).getD 0

/-- The first number from `k` on that makes a free name. A try for each taken name is enough. -/
def firstFree (taken : List String) (base : String) (k : Nat) : Nat → Nat
  | 0 => k
  | tries + 1 => if numbered base k ∈ taken then firstFree taken base (k + 1) tries else k

/-- Names one more column. -/
def next (naming : Naming) (base : String) : String × Naming :=
  if base ∈ naming.taken then
    let k := firstFree naming.taken base (naming.count base + 1) naming.taken.length
    let name := numbered base k
    (name, { taken := name :: naming.taken, counts := (base, k) :: naming.counts })
  else (base, { naming with taken := base :: naming.taken })

end Naming

/-- What a header is to be called if the name is free. -/
def base (raw : String) (place : Nat) : String := if raw.isEmpty then unnamed place else raw

/-- The column names for a row of headers. -/
def normalize (raws : List String) : List String :=
  (raws.zipIdx.foldl (fun naming (raw, place) => (naming.next (base raw place)).2)
    ({} : Naming)).taken.reverse

end TidyTable.Header
