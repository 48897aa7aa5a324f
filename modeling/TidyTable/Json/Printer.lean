import TidyTable.Decimal.Layout
import TidyTable.Json.Basic

/-!
# Writing JSON

The compact form: no space anywhere, and only what must be escaped is escaped, that is the quote,
the backslash and the control characters below the space.
-/

namespace TidyTable.Json

/-- A double in JSON: positional from `0.00001` up to sixteen digits before the point, otherwise
with an exponent, and a whole number keeps one decimal place so that it stays a double. -/
def layout : Decimal.Layout where
  positional power := -5 ≤ power && power < 16
  pointZero _ := true
  tie := .even
  nan := ['n', 'u', 'l', 'l']

/-- A hexadecimal digit in lower case. -/
def hexDigit (n : Nat) : Char := Nat.digitChar (n % 16)

/-- One character inside quotes. -/
def escape (c : Char) : List Char :=
  if c = '\x22' then ['\\', '\x22']
  else if c = '\\' then ['\\', '\\']
  else if c = '\x08' then ['\\', 'b']
  else if c = '\x0c' then ['\\', 'f']
  else if c = '\n' then ['\\', 'n']
  else if c = '\r' then ['\\', 'r']
  else if c = '\t' then ['\\', 't']
  else if c.toNat < 0x20 then ['\\', 'u', '0', '0', hexDigit (c.toNat / 16), hexDigit c.toNat]
  else [c]

/-- A string in quotes. -/
def quoted (s : String) : List Char :=
  '\x22' :: (s.toList.flatMap escape ++ ['\x22'])

namespace Number

/-- The text of a number. -/
def render : Number → List Char
  | .integer i => Decimal.integer i
  | .float x => layout.render x

end Number

mutual

/-- The compact text of a value. -/
def render : Json → List Char
  | .null => ['n', 'u', 'l', 'l']
  | .bool true => ['t', 'r', 'u', 'e']
  | .bool false => ['f', 'a', 'l', 's', 'e']
  | .number n => n.render
  | .string s => quoted s
  | .array [] => ['[', ']']
  | .array (x :: xs) => '[' :: (render x ++ renderItems xs)
  | .object [] => ['\x7b', '\x7d']
  | .object ((k, x) :: xs) => '\x7b' :: (quoted k ++ ':' :: (render x ++ renderFields xs))

/-- The items of an array behind the first one, and the bracket that closes it. -/
def renderItems : List Json → List Char
  | [] => [']']
  | x :: xs => ',' :: (render x ++ renderItems xs)

/-- The fields of an object behind the first one, and the brace that closes it. -/
def renderFields : List (String × Json) → List Char
  | [] => ['\x7d']
  | (k, x) :: xs => ',' :: (quoted k ++ ':' :: (render x ++ renderFields xs))

end

/-- The compact text of a value as a string. -/
def text (j : Json) : String := String.ofList j.render

end TidyTable.Json

namespace TidyTable.Record

/-- The compact text of a record. -/
def text (record : Record) : String := (Json.object record).text

end TidyTable.Record
