import TidyTable.Text.Utf8

/-!
# Decoding bytes

Bytes are read as UTF-8, or as UTF-16 if they begin with its byte order mark. A mark at the front is
dropped. What cannot be decoded is replaced: in UTF-8 once for the longest start of a character that
is broken off, and once for each byte that cannot begin a character; in UTF-16 once for each half of
a pair that stands alone, and once for a rest that is no unit.
-/

namespace TidyTable.Text

/-- Stands for bytes that cannot be decoded. -/
def undecodable : Char := '\ufffd'

/-! ## UTF-8 -/

/-- What a byte between characters gives: a character, or one that is begun. -/
def begin (b : Nat) : Option Char × Option Partial :=
  if b < 0x80 then (some (Char.ofNat b), none)
  else
    match lead? b with
    | some p => (none, some p)
    | none => (some undecodable, none)

/-- What one more byte gives: characters, and one that is begun. -/
def Partial.step (p : Partial) (b : Nat) : List Char × Option Partial :=
  if p.least ≤ b && b ≤ p.largest then
    let value := p.value * 64 + (b - 0x80)
    if p.missing ≤ 1 then ([Char.ofNat value], none)
    else ([], some { missing := p.missing - 1, value })
  else
    -- the byte belongs to the next character, and the one that was begun is broken off
    let (c, p) := begin b
    (undecodable :: c.toList, p)

/-- Decodes UTF-8 behind a character that may be begun. -/
def decodeUtf8From : Option Partial → List UInt8 → List Char
  | none, [] => []
  | some _, [] => [undecodable]
  | none, b :: bs =>
    let (c, p) := begin b.toNat
    c.toList ++ decodeUtf8From p bs
  | some p, b :: bs =>
    let (cs, p) := p.step b.toNat
    cs ++ decodeUtf8From p bs

/-- Decodes UTF-8. -/
def decodeUtf8 (bs : List UInt8) : List Char := decodeUtf8From none bs

/-! ## UTF-16 -/

/-- Whether a unit is the first half of a pair. -/
def isFirstHalf (u : Nat) : Bool := 0xd800 ≤ u && u < 0xdc00

/-- Whether a unit is the second half of a pair. -/
def isSecondHalf (u : Nat) : Bool := 0xdc00 ≤ u && u < 0xe000

/-- The character of a pair. -/
def paired (first second : Nat) : Char :=
  Char.ofNat (0x10000 + (first - 0xd800) * 0x400 + (second - 0xdc00))

/-- The units of bytes, each written by `unit`, and whether a byte is left. -/
def units (unit : UInt8 → UInt8 → Nat) : List UInt8 → List Nat × Bool
  | [] => ([], false)
  | [_] => ([], true)
  | a :: b :: bs =>
    let (us, odd) := units unit bs
    (unit a b :: us, odd)

/-- The characters of units; `odd` says whether a byte is left behind them. -/
def decodeUnits (odd : Bool) : List Nat → List Char
  | [] => if odd then [undecodable] else []
  | [u] =>
    if isFirstHalf u then [undecodable]
    else (if isSecondHalf u then undecodable else Char.ofNat u) :: if odd then [undecodable] else []
  | u :: v :: us =>
    if isFirstHalf u then
      if isSecondHalf v then paired u v :: decodeUnits odd us
      else undecodable :: decodeUnits odd (v :: us)
    else (if isSecondHalf u then undecodable else Char.ofNat u) :: decodeUnits odd (v :: us)

/-- Decodes UTF-16. -/
def decodeUtf16 (unit : UInt8 → UInt8 → Nat) (bs : List UInt8) : List Char :=
  let (us, odd) := units unit bs
  decodeUnits odd us

/-- A unit whose low byte comes first. -/
def lowFirst (a b : UInt8) : Nat := b.toNat * 256 + a.toNat

/-- A unit whose high byte comes first. -/
def highFirst (a b : UInt8) : Nat := a.toNat * 256 + b.toNat

/-- Decodes bytes by their byte order mark. -/
def decode (bytes : ByteArray) : String :=
  String.ofList <|
    match bytes.toList with
    | 0xef :: 0xbb :: 0xbf :: bs => decodeUtf8 bs
    | 0xff :: 0xfe :: bs => decodeUtf16 lowFirst bs
    | 0xfe :: 0xff :: bs => decodeUtf16 highFirst bs
    | bs => decodeUtf8 bs

end TidyTable.Text
