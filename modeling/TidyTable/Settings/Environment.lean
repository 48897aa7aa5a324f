import TidyTable.Decimal.Reader
import TidyTable.Settings.Layer
import TidyTable.Text.Parts
import TidyTable.Toml.Text

/-!
# Settings from the environment

A variable whose name begins with `SCRIBE_EXPORT_`, in any case, sets the field that the rest of its
name says. Dots in the rest would lead into tables, and no field is a table. The text of a variable
is read as a value: a truth value, a number, a list, a table, or a text that may be quoted. Whatever
is none of these stands for itself, just as it was written.
-/

namespace TidyTable.Settings

/-! ## Names -/

/-- How the names of the variables begin. -/
def variableMark : List Char := "SCRIBE_EXPORT_".toList

/-- The names that a variable leads to, in lower case, from the outermost table to the value. -/
def variablePath? (s : String) : Option (List String) :=
  let name := Text.trim s.toList
  let front := name.take variableMark.length
  let path := Text.parts '.' (Text.trim (name.drop variableMark.length))
  if front.map Char.toUpper != variableMark || path.any List.isEmpty then none
  else some (path.map fun part => String.ofList (part.map Char.toLower))

/-! ## Values -/

/-- Whether a text in front of a separator is a number: with a point it may be a fraction, and
without one it must fit into a word. -/
def isNumber (cs : List Char) : Bool :=
  let fits :=
    if cs.head? == some '-' then (Decimal.readDigits? cs.tail).any (· ≤ 0x8000000000000000)
    else (Decimal.readNatural? cs).any (· ≤ 0xffffffffffffffff)
  (cs.contains '.' && (Decimal.readFloat? cs).isSome) || fits

/-- Whether a character ends a text without quotes. -/
def isSeparator (c : Char) : Bool := [',', '\x7b', '\x7d', '[', ']'].contains c

/-- Drops the spaces in front. -/
def skipSpaces (cs : List Char) : List Char := cs.dropWhile Text.isAsciiSpace

/-- What follows items with commas between them and the bracket behind them, of at most so many
items. -/
def afterItems? (item? : List Char → Option (List Char)) (close : Char) :
    Nat → List Char → Option (List Char)
  | 0, _ => none
  | n + 1, cs =>
    if cs.head? == some close then some cs.tail
    else
      match item? cs with
      | some (c :: rest) =>
        if c == ',' then afterItems? item? close n rest
        else if c == close then some rest
        else none
      | _ => none

/-- What follows the key of a table, an equals sign included. -/
def afterKey? (cs : List Char) : Option (List Char) :=
  let behind :=
    match skipSpaces cs with
    | '\x22' :: rest => (Toml.quoted? rest).map Prod.snd
    | rest => if rest.head?.any Toml.isKeyChar then some (rest.dropWhile Toml.isKeyChar) else none
  match behind.map skipSpaces with
  | some ('=' :: rest) => some rest
  | _ => none

/-- A value that nests at most so deep, and what follows it. -/
def valueIn? : Nat → Toml.Reader Value
  | 0, _ => none
  | depth + 1, cs =>
    let after? := fun cs => (valueIn? depth cs).map Prod.snd
    let found : Option (Value × List Char) :=
      match skipSpaces cs with
      | 't' :: 'r' :: 'u' :: 'e' :: rest => some (.flag true, rest)
      | 'f' :: 'a' :: 'l' :: 's' :: 'e' :: rest => some (.flag false, rest)
      | '\x7b' :: rest =>
        (afterItems? (fun cs => (afterKey? cs).bind after?) '\x7d' (rest.length + 1) rest).map
          (.other, ·)
      | '[' :: rest => (afterItems? after? ']' (rest.length + 1) rest).map (.other, ·)
      | '\x22' :: rest => (Toml.quoted? rest).map fun (s, rest) => (.text (String.ofList s), rest)
      | '\x27' :: c :: '\x27' :: rest => some (.text c.toString, rest)
      | '\x27' :: _ => none
      | rest =>
        let word := Text.trim (rest.takeWhile (!isSeparator ·))
        some (if isNumber word then .other else .text (String.ofList word),
          rest.dropWhile (!isSeparator ·))
    found.map fun (value, rest) => (value, skipSpaces rest)

/-- The value that a variable holds. -/
def Value.ofVariable (s : String) : Value :=
  match valueIn? (s.length + 1) s.toList with
  | some (value, []) => value
  -- something is left over, so it was no value after all
  | _ => .text s

/-! ## The layer -/

/-- What a variable says. -/
def Layer.ofVariable (name value : String) : Layer :=
  match variablePath? name with
  | some [field] => [(field, .ofVariable value)]
  | some (table :: _) => [(table, .other)]
  | _ => []

/-- What the variables of an environment say. -/
def Layer.ofEnvironment (environment : List (String × String)) : Layer :=
  environment.flatMap fun (name, value) => Layer.ofVariable name value

end TidyTable.Settings
