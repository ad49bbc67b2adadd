/-!
# Text from bytes

`Utf8.decode` reads bytes as UTF-8. Bytes that are no UTF-8 do not stop it: the longest beginning of
a character, or else the single byte, is read as the replacement character.
-/
namespace Deinterlace.Utf8

/-- A character of which some bytes are still missing. -/
structure Partial where
  missing : Nat
  low : Nat := 0x80
  high : Nat := 0xbf
  bits : Nat
deriving DecidableEq, Repr

/-- Stands for bytes that are no character. -/
def replacement : Char := Char.ofNat 0xfffd

/-- What a byte between two characters begins: a character of its own, or a partial one. -/
def start (byte : Nat) : List Char × Option Partial :=
  if byte < 0x80 then ([Char.ofNat byte], none)
  else if 0xc2 ≤ byte ∧ byte ≤ 0xdf then ([], some { missing := 1, bits := byte % 0x20 })
  else if byte = 0xe0 then ([], some { missing := 2, low := 0xa0, bits := 0 })
  else if byte = 0xed then ([], some { missing := 2, high := 0x9f, bits := 0xd })
  else if 0xe1 ≤ byte ∧ byte ≤ 0xef then ([], some { missing := 2, bits := byte % 0x10 })
  else if byte = 0xf0 then ([], some { missing := 3, low := 0x90, bits := 0 })
  else if 0xf1 ≤ byte ∧ byte ≤ 0xf3 then ([], some { missing := 3, bits := byte % 0x8 })
  else if byte = 0xf4 then ([], some { missing := 3, high := 0x8f, bits := 4 })
  else ([replacement], none)

/-- Reads one byte: the characters that are complete with it, and what is left incomplete. -/
def step (pending : Option Partial) (byte : Nat) : List Char × Option Partial :=
  match pending with
  | none => start byte
  | some p =>
    if p.low ≤ byte ∧ byte ≤ p.high then
      let bits := p.bits * 0x40 + byte % 0x40
      if p.missing ≤ 1 then ([Char.ofNat bits], none)
      else ([], some { missing := p.missing - 1, bits := bits })
    else
      let (done, next) := start byte
      (replacement :: done, next)

def decodeFrom : Option Partial → List UInt8 → List Char
  | none, [] => []
  | some _, [] => [replacement]
  | pending, byte :: rest =>
    let (done, next) := step pending byte.toNat
    done ++ decodeFrom next rest

def decode (bytes : List UInt8) : String := String.ofList (decodeFrom none bytes)

end Deinterlace.Utf8
