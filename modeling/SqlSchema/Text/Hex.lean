/-! Hexadecimal digits. Bytes are written as two lower-case digits each; reading accepts either
case. -/

namespace SqlSchema.Text

def hexDigit (n : Nat) : Char :=
  if n < 10 then Char.ofNat (48 + n) else Char.ofNat (87 + n)

def hexValue? (c : Char) : Option Nat :=
  let n := c.toNat
  if 48 ≤ n && n ≤ 57 then some (n - 48)
  else if 97 ≤ n && n ≤ 102 then some (n - 87)
  else if 65 ≤ n && n ≤ 70 then some (n - 55)
  else none

/-- The two digits of a byte, high half first. -/
def hexByte (b : UInt8) : List Char :=
  [hexDigit (b.toNat / 16), hexDigit (b.toNat % 16)]

def hexEncode (bytes : List UInt8) : String :=
  String.ofList (bytes.flatMap hexByte)

def hexBytes? : List Char → Option (List UInt8)
  | [] => some []
  | a :: b :: rest => do
    let high ← hexValue? a
    let low ← hexValue? b
    let bytes ← hexBytes? rest
    return UInt8.ofNat (16 * high + low) :: bytes
  | [_] => none

def hexDecode? (s : String) : Option (List UInt8) :=
  hexBytes? s.toList

/-- The digits of a number without leading zeros, `0` for zero. -/
def hexNumber (n : Nat) : String :=
  String.ofList (Nat.toDigits 16 n)

end SqlSchema.Text
