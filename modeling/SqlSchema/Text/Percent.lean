import SqlSchema.Text.Hex
import SqlSchema.Text.Utf8

/-! Percent-encoding. An encode set names the ASCII characters written as `%XX`; every byte of a
character beyond ASCII is always written so. Decoding undoes complete triples and keeps the rest. -/

namespace SqlSchema.Text

def upperHexDigit (n : Nat) : Char :=
  if n < 10 then Char.ofNat (48 + n) else Char.ofNat (55 + n)

def percentByte (b : UInt8) : List Char :=
  ['%', upperHexDigit (b.toNat / 16), upperHexDigit (b.toNat % 16)]

def percentChar (escaped : Char → Bool) (c : Char) : List Char :=
  if c.toNat < 0x80 && !escaped c then [c]
  else (String.utf8EncodeChar c).flatMap percentByte

def percentEncode (escaped : Char → Bool) (cs : List Char) : List Char :=
  cs.flatMap (percentChar escaped)

def hexByteValue? (b : UInt8) : Option Nat :=
  hexValue? (Char.ofNat b.toNat)

/-- The bytes with each complete `%XX` replaced by the byte it stands for. -/
def percentDecode : List UInt8 → List UInt8
  | [] => []
  | b :: rest =>
    if b == 0x25 then
      match rest with
      | h :: l :: rest' =>
        match hexByteValue? h, hexByteValue? l with
        | some high, some low => UInt8.ofNat (16 * high + low) :: percentDecode rest'
        | _, _ => b :: percentDecode (h :: l :: rest')
      | short => b :: percentDecode short
    else b :: percentDecode rest

end SqlSchema.Text
