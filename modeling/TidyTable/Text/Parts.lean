/-!
# Parts of a text

A text falls into parts at each occurrence of a separator; two separators side by side have an empty
part between them, and a text without one is a single part.
-/

namespace TidyTable.Text

/-- The parts of a text between the separators. -/
def parts (separator : Char) : List Char → List (List Char)
  | [] => [[]]
  | c :: cs =>
    if c == separator then [] :: parts separator cs
    else
      match parts separator cs with
      | part :: rest => (c :: part) :: rest
      | [] => [[c]]

end TidyTable.Text
