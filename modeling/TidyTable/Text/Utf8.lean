/-!
# UTF-8

A text is written as bytes, and bytes are read back as text if they are UTF-8. A reader goes over
the bytes once and keeps the character that is begun, with the range that its next byte must lie in.
That range is what keeps surrogates, needlessly long forms and values above the last character out.

Bytes that are no text have a first fault: so many of them are sound, and then a character is begun
that no byte continues, or the bytes end inside it.
-/

namespace TidyTable.Text

/-- The bytes of a text. -/
abbrev Bytes := List UInt8

/-- The UTF-8 form of a text. -/
def utf8 (s : String) : Bytes := s.toList.flatMap String.utf8EncodeChar

/-- A character whose first bytes are read. -/
structure Partial where
  /-- How many bytes it lacks. -/
  missing : Nat
  /-- The value of the bits that are read. -/
  value : Nat
  /-- The least and the largest byte that may come next. -/
  least : Nat := 0x80
  largest : Nat := 0xbf
deriving DecidableEq, Repr

/-- What a byte begins that is not ASCII, if it can begin a character. -/
def lead? (b : Nat) : Option Partial :=
  if 0xc2 ≤ b && b ≤ 0xdf then some { missing := 1, value := b - 0xc0 }
  else if b == 0xe0 then some { missing := 2, value := 0, least := 0xa0 }
  else if b == 0xed then some { missing := 2, value := 0xd, largest := 0x9f }
  else if 0xe1 ≤ b && b ≤ 0xef then some { missing := 2, value := b - 0xe0 }
  else if b == 0xf0 then some { missing := 3, value := 0, least := 0x90 }
  else if 0xf1 ≤ b && b ≤ 0xf3 then some { missing := 3, value := b - 0xf0 }
  else if b == 0xf4 then some { missing := 3, value := 4, largest := 0x8f }
  else none

/-- The first fault of bytes that are not UTF-8. -/
structure Utf8Fault where
  /-- How many bytes in front of the fault are whole characters. -/
  sound : Nat
  /-- How many bytes the broken character has, unless the end of the bytes breaks it off. -/
  broken? : Option Nat
deriving DecidableEq, Repr

/-- What was read so far. -/
structure Utf8Reader where
  /-- The whole characters, the newest first. -/
  chars : List Char := []
  /-- How many bytes they have. -/
  sound : Nat := 0
  /-- The character that is begun, and how many of its bytes are read. -/
  begun? : Option (Partial × Nat) := none
deriving DecidableEq, Repr

namespace Utf8Reader

/-- Reads one byte. -/
def step (r : Utf8Reader) (b : UInt8) : Except Utf8Fault Utf8Reader :=
  let n := b.toNat
  match r.begun? with
  | none =>
    if n < 0x80 then .ok { r with chars := Char.ofNat n :: r.chars, sound := r.sound + 1 }
    else
      match lead? n with
      | some p => .ok { r with begun? := some (p, 1) }
      | none => .error ⟨r.sound, some 1⟩
  | some (p, taken) =>
    if p.least ≤ n && n ≤ p.largest then
      let value := p.value * 64 + (n - 0x80)
      if p.missing ≤ 1 then
        .ok { chars := Char.ofNat value :: r.chars, sound := r.sound + taken + 1 }
      else .ok { r with begun? := some ({ missing := p.missing - 1, value }, taken + 1) }
    else .error ⟨r.sound, some taken⟩

/-- The text at the end of the bytes. -/
def finish (r : Utf8Reader) : Except Utf8Fault String :=
  if r.begun?.isNone then .ok (String.ofList r.chars.reverse) else .error ⟨r.sound, none⟩

end Utf8Reader

/-- Reads bytes as text. -/
def readUtf8 (bs : Bytes) : Except Utf8Fault String := do
  (← bs.foldlM Utf8Reader.step {}).finish

end TidyTable.Text
