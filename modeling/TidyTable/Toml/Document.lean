import TidyTable.Toml.Word

/-!
# Reading documents in TOML

A document is read line by line. A line holds a key with its value, or the header of the table that
the keys below it belong to, or nothing; a comment may stand at its end. The document is refused as
a whole if a line is not well formed, or if it says something twice.
-/

namespace TidyTable.Toml

/-! ## Space -/

/-- What follows a comment, if one begins here. -/
def afterComment? (cs : List Char) : Option (List Char) :=
  match cs with
  | '#' :: rest =>
    let line := rest.takeWhile (· != '\n')
    let behind := rest.dropWhile (· != '\n')
    let body := if behind.isEmpty || line.getLast? != some '\r' then line else line.dropLast
    if body.any isControl then none else some behind
  | cs => some cs

/-- What follows the end of a line, with a comment or not; the end of the text ends the line too. -/
def endLine? (cs : List Char) : Option (List Char) := do
  match ← afterComment? (skipSpace cs) with
  | [] => some []
  | rest => lineEnd? rest

/-- What follows spaces, comments and line ends, of at most so many characters. -/
def skipLinesIn? : Nat → List Char → Option (List Char)
  | 0, cs => some cs
  | n + 1, cs => do
    let rest ← afterComment? (skipSpace cs)
    match lineEnd? rest with
    | some more => skipLinesIn? n more
    | none => some rest

/-- What follows spaces, comments and line ends. -/
def skipLines? (cs : List Char) : Option (List Char) := skipLinesIn? (cs.length + 1) cs

/-! ## Values -/

/-- The rest of an array, of at most so many items. -/
def arrayIn? (value? : Reader Item) : Nat → Reader (List Item)
  | 0, _ => none
  | n + 1, cs => do
    match ← skipLines? cs with
    | ']' :: rest => some ([], rest)
    | cs => do
      let (item, rest) ← value? cs
      match ← skipLines? rest with
      | ',' :: rest => do
        let (items, rest) ← arrayIn? value? n rest
        some (item :: items, rest)
      | ']' :: rest => some ([item], rest)
      | _ => none

/-- A key with its value. -/
def pair? (value? : Reader Item) : Reader (List String × Item) := fun cs => do
  match ← path? cs with
  | (path, '=' :: rest) => do
    let (item, rest) ← value? (skipSpace rest)
    some ((path, item), rest)
  | _ => none

/-- The rest of a table between braces that has the given fields, of at most so many more. -/
def tableIn? (value? : Reader Item) (fs : Fields) : Nat → Reader Fields
  | 0, _ => none
  | n + 1, cs => do
    let ((path, item), rest) ← pair? value? cs
    let fs ← fs.addDotted? item path
    match skipSpace rest with
    | ',' :: rest => tableIn? value? fs n rest
    | '\x7d' :: rest => some (fs, rest)
    | _ => none

/-- How deep values may nest. -/
def maxDepth : Nat := 80

/-- A value that nests at most so deep. -/
def valueIn? : Nat → Reader Item
  | 0, _ => none
  | depth + 1, cs =>
    match cs with
    | '[' :: rest =>
      (arrayIn? (valueIn? depth) (rest.length + 1) rest).map fun (items, rest) =>
        (.array items, rest)
    | '\x7b' :: rest =>
      match skipSpace rest with
      | '\x7d' :: rest => some (.table .inline [], rest)
      | rest =>
        (tableIn? (valueIn? depth) [] (rest.length + 1) rest).map fun (fs, rest) =>
          (.table .inline fs, rest)
    | '\x22' :: _ | '\x27' :: _ => (text? cs).map fun (s, rest) => (.text s, rest)
    | cs => plain? cs

/-- A value. -/
def value? (cs : List Char) : Option (Item × List Char) := valueIn? maxDepth cs

/-! ## Lines -/

/-- A document that is read so far, and the keys of the table that the next line belongs to. -/
structure Draft where
  fields : Fields := []
  path : List String := []

/-- Reads a header behind its opening bracket or brackets. -/
def header? (d : Draft) (nextTable : Bool) (cs : List Char) : Option (Draft × List Char) := do
  let (path, rest) ← path? cs
  let rest ← behind? ']' rest
  let rest ← if nextTable then behind? ']' rest else some rest
  let opened := if nextTable then Fields.openNext? else Fields.open?
  some ({ fields := ← Fields.changeParent? opened path d.fields, path }, rest)

/-- Reads a key with its value. -/
def keyLine? (d : Draft) (cs : List Char) : Option (Draft × List Char) := do
  let ((path, item), rest) ← pair? value? cs
  some ({ d with fields := ← Fields.changeAt? (Fields.addDotted? item path) d.path d.fields }, rest)

/-- Reads what stands in a line before its comment. -/
def line? (d : Draft) (cs : List Char) : Option (Draft × List Char) :=
  match skipSpace cs with
  | [] => some (d, [])
  | '#' :: rest => some (d, '#' :: rest)
  | '[' :: '[' :: rest => header? d true rest
  | '[' :: rest => header? d false rest
  | cs => if (lineEnd? cs).isSome then some (d, cs) else keyLine? d cs

/-- Reads lines, at most so many. -/
def linesFrom? (d : Draft) (cs : List Char) : Nat → Option Fields
  | 0 => none
  | n + 1 =>
    match cs with
    | [] => some d.fields
    | cs => do
      let (d, rest) ← line? d cs
      linesFrom? d (← endLine? rest) n

/-- Reads a document. A byte order mark in front is dropped. -/
def parse? (s : String) : Option Fields :=
  let cs :=
    match s.toList with
    | '\ufeff' :: cs => cs
    | cs => cs
  linesFrom? {} cs (cs.length + 1)

end TidyTable.Toml
