/-!
# Blank characters

The characters that count as white space when text is trimmed. The set is the Unicode property
`White_Space`, which is larger than the six characters a line of source code knows: it has the
non-breaking space, the typographic spaces and the line separators, but not the zero-width space
and not the byte order mark.
-/

namespace TidyTable.Text

/-- The Unicode property `White_Space`. -/
def isBlank (c : Char) : Bool :=
  let n := c.toNat
  (0x09 ≤ n && n ≤ 0x0d) || n == 0x20 || n == 0x85 || n == 0xa0 || n == 0x1680
    || (0x2000 ≤ n && n ≤ 0x200a) || n == 0x2028 || n == 0x2029 || n == 0x202f || n == 0x205f
    || n == 0x3000

/-- Drops the blanks at both ends. -/
def trim (cs : List Char) : List Char :=
  ((cs.dropWhile isBlank).reverse.dropWhile isBlank).reverse

/-- Drops the blanks at both ends of a string. -/
def trimmed (s : String) : String :=
  String.ofList (trim s.toList)

/-- The five characters that formats of the web treat as space: tab, line feed, form feed, carriage
return and the space itself. -/
def isAsciiSpace (c : Char) : Bool :=
  c == ' ' || c == '\t' || c == '\n' || c == '\x0c' || c == '\r'

end TidyTable.Text
