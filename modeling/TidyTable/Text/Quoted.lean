import TidyTable.Text.Printable

/-!
# Quoted text

How a message shows a value that may hold anything: between quotes, with the characters that a
reader could not see, or could take for the end of the value, written as escapes. The kind of quote
that encloses the value is escaped inside it, the other kind is not.
-/

namespace TidyTable.Text

/-- A backslash, the letter `u` and the code point between braces. -/
def codePoint (c : Char) : List Char :=
  ['\\', 'u', '\x7b'] ++ Nat.toDigits 16 c.toNat ++ ['\x7d']

/-- One character between quotes of the given kind. -/
def quotedChar (quote c : Char) : List Char :=
  if c = '\x00' then ['\\', '0']
  else if c = '\t' then ['\\', 't']
  else if c = '\r' then ['\\', 'r']
  else if c = '\n' then ['\\', 'n']
  else if c = '\\' ∨ c = quote then ['\\', c]
  else if isPrintable c then [c]
  else codePoint c

/-- A string between double quotes. -/
def quoteString (s : String) : String :=
  String.ofList ('\x22' :: (s.toList.flatMap (quotedChar '\x22') ++ ['\x22']))

/-- A character between single quotes. -/
def quoteChar (c : Char) : String :=
  String.ofList ('\x27' :: (quotedChar '\x27' c ++ ['\x27']))

end TidyTable.Text
