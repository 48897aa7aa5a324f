import TidyTable.Html.Reference

/-!
# Characters of markup

What a run of source text stands for. A reference has a name or a number and ends in a semicolon;
some names, and all numbers, are also understood without one. Text after an ampersand that is no
reference stands for itself.

Within the value of an attribute a name without its semicolon is left alone if it could be the start
of something longer, so that the parameters of an address keep their ampersands.
-/

namespace TidyTable.Html

/-- Stands for a character that cannot be shown. -/
def replacement : Char := '\ufffd'

/-- Replaces a NUL, which no document can hold. -/
def denull (c : Char) : Char := if c == '\x00' then replacement else c

namespace Reference

/-- A reference in a text. -/
structure Found where
  /-- How many characters it takes behind the ampersand. -/
  length : Nat
  /-- What it stands for. -/
  text : List Char
  /-- Whether it ends in a semicolon. -/
  complete : Bool
deriving DecidableEq, Repr

/-- What the numbers from 0x80 to 0x9f stand for: a legacy code page fills the place of control
characters, except where it has no character either. -/
def legacy : List Nat :=
  [0x20ac, 0x81, 0x201a, 0x192, 0x201e, 0x2026, 0x2020, 0x2021, 0x2c6, 0x2030, 0x160, 0x2039,
    0x152, 0x8d, 0x17d, 0x8f, 0x90, 0x2018, 0x2019, 0x201c, 0x201d, 0x2022, 0x2013, 0x2014, 0x2dc,
    0x2122, 0x161, 0x203a, 0x153, 0x9d, 0x17e, 0x178]

/-- The character that a number refers to. -/
def character (n : Nat) : Char :=
  if n == 0 || 0x10ffff < n || (0xd800 ≤ n && n ≤ 0xdfff) then replacement
  else if 0x80 ≤ n && n ≤ 0x9f then Char.ofNat (legacy.getD (n - 0x80) n)
  else Char.ofNat n

/-- The value of a hexadecimal digit. -/
def hexDigit? (c : Char) : Option Nat :=
  if c.isDigit then some (c.toNat - '0'.toNat)
  else if 'a' ≤ c && c ≤ 'f' then some (c.toNat - 'a'.toNat + 10)
  else if 'A' ≤ c && c ≤ 'F' then some (c.toNat - 'A'.toNat + 10)
  else none

/-- The value of a digit in a base that is ten or sixteen. -/
def digit? (base : Nat) (c : Char) : Option Nat :=
  (hexDigit? c).filter (· < base)

/-- The value of digits, or some number past the last character if they are too many. -/
def number (base : Nat) (digits : List Char) : Nat :=
  digits.foldl (fun n c => min 0x110000 (n * base + (digit? base c).getD 0)) 0

/-- A number in a base. `before` characters stand between the ampersand and the digits. -/
def digits? (base before : Nat) (cs : List Char) : Option Found :=
  let digits := cs.takeWhile fun c => (digit? base c).isSome
  if digits.isEmpty then none
  else
    let complete := (cs.drop digits.length).head? == some ';'
    some
      { length := before + digits.length + (if complete then 1 else 0)
        text := [character (number base digits)]
        complete }

/-- The longest of the names that need no semicolon, of at most `n` characters. -/
def longest? (cs : List Char) : Nat → Option (List Char)
  | 0 => none
  | n + 1 =>
    if withoutSemicolon.contains (String.ofList (cs.take (n + 1))) then some (cs.take (n + 1))
    else longest? cs n

/-- The length of the longest name that needs no semicolon. -/
def longestName : Nat := 6

/-- A name that needs no semicolon and has none. -/
def bare? (inValue : Bool) (cs : List Char) : Option Found := do
  let name ← longest? cs (min longestName cs.length)
  let text ← lookup? name
  let extended := (cs.drop name.length).head?.any fun c => c.isAlphanum || c == '='
  if inValue && extended then none
  else some { length := name.length, text, complete := false }

/-- A name: whole up to its semicolon, else as much of it as needs none. -/
def named? (inValue : Bool) (cs : List Char) : Option Found :=
  let name := cs.takeWhile Char.isAlphanum
  let whole := if (cs.drop name.length).head? == some ';' then lookup? name else none
  match whole with
  | some text => some { length := name.length + 1, text, complete := true }
  | none => bare? inValue cs

/-- The reference that begins behind an ampersand. -/
def read? (inValue : Bool) : List Char → Option Found
  | '#' :: 'x' :: cs => digits? 16 2 cs
  | '#' :: 'X' :: cs => digits? 16 2 cs
  | '#' :: cs => digits? 10 1 cs
  | cs => named? inValue cs

end Reference

/-- What a run of source text is made of. -/
inductive Symbol where
  | char (c : Char)
  /-- A reference lacks its semicolon; what it stands for follows. -/
  | incomplete
deriving DecidableEq, Repr

namespace Symbol

/-- The character of a symbol that is one. -/
def char? : Symbol → Option Char
  | .char c => some c
  | .incomplete => none

/-- The symbols of a reference. -/
def ofFound (r : Reference.Found) : List Symbol :=
  if r.complete then r.text.map char else incomplete :: r.text.map char

/-- The symbols of a text whose first characters belong to what was read before. -/
def decodeFrom (inValue : Bool) : Nat → List Char → List Symbol
  | _, [] => []
  | skip + 1, _ :: cs => decodeFrom inValue skip cs
  | 0, c :: cs =>
    if c == '&' then
      match Reference.read? inValue cs with
      | some r => ofFound r ++ decodeFrom inValue r.length cs
      | none => char c :: decodeFrom inValue 0 cs
    else char c :: decodeFrom inValue 0 cs

/-- The symbols of a text. -/
def decode (inValue : Bool) (cs : List Char) : List Symbol := decodeFrom inValue 0 cs

end Symbol

/-- The value of an attribute that is written so. -/
def attributeValue (cs : List Char) : List Char :=
  ((Symbol.decode true cs).filterMap Symbol.char?).map denull

/-- Lowers the letters of ASCII. -/
def lower (cs : List Char) : List Char := cs.map Char.toLower

end TidyTable.Html
