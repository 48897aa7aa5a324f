/-!
# Items of TOML

A document is a table of items. A table remembers how it came to be, because that decides what may
still be added to it: a table between braces is complete; one that dotted keys made takes more
dotted keys; one that the header of an inner table implies may still get a header of its own; and
one that has its header takes keys only there.
-/

namespace TidyTable.Toml

/-- How a table came to be. -/
inductive Origin where
  | inline
  | dotted
  | implied
  | header
deriving DecidableEq, Repr

/-- A value of a document, or a table in it. -/
inductive Item where
  | text (s : String)
  | flag (b : Bool)
  | integer (i : Int)
  | float (x : Float)
  /-- A date, a time, or both. -/
  | moment
  | array (items : List Item)
  | table (origin : Origin) (fields : List (String × Item))
  /-- Tables under one header, in order. -/
  | tables (items : List (List (String × Item)))
deriving Repr

/-- The items of a table by their keys, in order. -/
abbrev Fields := List (String × Item)

namespace Fields

/-- Whether a key is taken. -/
def has (fs : Fields) (key : String) : Bool := fs.any (·.1 == key)

/-- Puts another item under a key. -/
def replace (fs : Fields) (key : String) (item : Item) : Fields :=
  fs.map fun (k, v) => if k == key then (k, item) else (k, v)

/-- Adds an item under a key that is not taken. -/
def add? (fs : Fields) (key : String) (item : Item) : Option Fields :=
  if fs.has key then none else some (fs ++ [(key, item)])

/-- Adds an item under dotted keys, which make the tables they need. The keys may lead through
tables that a header implies, but only tables that dotted keys made are added to. -/
def addDotted? (item : Item) : List String → Fields → Option Fields
  | [], _ => none
  | [key], fs => fs.add? key item
  | key :: keys, fs =>
    match fs.lookup key with
    | none => (addDotted? item keys []).bind fun inner => fs.add? key (.table .dotted inner)
    | some (.table .dotted inner) =>
      (addDotted? item keys inner).map fun inner => fs.replace key (.table .dotted inner)
    | some (.table .implied inner) =>
      if keys.length < 2 then none
      else (addDotted? item keys inner).map fun inner => fs.replace key (.table .implied inner)
    | some (.tables items) =>
      if keys.length < 2 then none
      else
        (addDotted? item keys (items.getLast?.getD [])).map fun inner =>
          fs.replace key (.tables (items.dropLast ++ [inner]))
    | some _ => none

/-- Changes the table that keys lead to; of tables under one header that is the last. Tables that do
not exist yet are implied. -/
def changeAt? (f : Fields → Option Fields) : List String → Fields → Option Fields
  | [], fs => f fs
  | key :: keys, fs =>
    match fs.lookup key with
    | none => (changeAt? f keys []).bind fun inner => fs.add? key (.table .implied inner)
    | some (.table .inline _) => none
    | some (.table origin inner) =>
      (changeAt? f keys inner).map fun inner => fs.replace key (.table origin inner)
    | some (.tables items) =>
      (changeAt? f keys (items.getLast?.getD [])).map fun inner =>
        fs.replace key (.tables (items.dropLast ++ [inner]))
    | some _ => none

/-- Gives a table its header. -/
def open? (key : String) (fs : Fields) : Option Fields :=
  match fs.lookup key with
  | none => fs.add? key (.table .header [])
  | some (.table .implied inner) => some (fs.replace key (.table .header inner))
  | some _ => none

/-- Begins one more table under a header. -/
def openNext? (key : String) (fs : Fields) : Option Fields :=
  match fs.lookup key with
  | none => fs.add? key (.tables [[]])
  | some (.tables items) => some (fs.replace key (.tables (items ++ [[]])))
  | some _ => none

/-- Changes the parent of the table that keys name. -/
def changeParent? (f : String → Fields → Option Fields) (path : List String) (fs : Fields) :
    Option Fields :=
  path.getLast?.bind fun key => changeAt? (f key) path.dropLast fs

end Fields

end TidyTable.Toml
