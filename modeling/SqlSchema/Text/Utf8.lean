/-! UTF-8 text as bytes. Decoding is strict: it refuses overlong forms, surrogates and code points
past the last one, and says where the first sequence that is not text begins. -/

namespace SqlSchema.Text

/-- Why bytes are not text: at an index, either a sequence that no continuation could repair,
with the number of bytes it spans, or a sequence cut off by the end. -/
inductive Utf8Fault
  | invalid (index length : Nat)
  | incomplete (index : Nat)
  deriving Repr, DecidableEq

def Utf8Fault.message : Utf8Fault → String
  | .invalid index length =>
    s!"invalid utf-8 sequence of {length} bytes from index {index}"
  | .incomplete index => s!"incomplete utf-8 byte sequence from index {index}"

def isContinuation (b : UInt8) : Bool :=
  0x80 ≤ b && b ≤ 0xBF

/-- Whether a second byte may follow the first one of a sequence of three or four bytes. -/
def continuesLead (lead b : UInt8) : Bool :=
  if lead == 0xE0 then 0xA0 ≤ b && b ≤ 0xBF
  else if lead == 0xED then 0x80 ≤ b && b ≤ 0x9F
  else if lead == 0xF0 then 0x90 ≤ b && b ≤ 0xBF
  else if lead == 0xF4 then 0x80 ≤ b && b ≤ 0x8F
  else isContinuation b

def payload (b : UInt8) : Nat :=
  b.toNat % 64

/-- The characters of a byte sequence whose first byte has the given index. -/
def utf8Chars (index : Nat) : List UInt8 → Except Utf8Fault (List Char)
  | [] => .ok []
  | a :: rest =>
    if a < 0x80 then
      (utf8Chars (index + 1) rest).map (Char.ofNat a.toNat :: ·)
    else if 0xC2 ≤ a && a ≤ 0xDF then
      match rest with
      | [] => .error (.incomplete index)
      | b :: rest =>
        if isContinuation b then
          (utf8Chars (index + 2) rest).map
            (Char.ofNat (a.toNat % 32 * 64 + payload b) :: ·)
        else .error (.invalid index 1)
    else if 0xE0 ≤ a && a ≤ 0xEF then
      match rest with
      | [] => .error (.incomplete index)
      | b :: rest =>
        if continuesLead a b then
          match rest with
          | [] => .error (.incomplete index)
          | c :: rest =>
            if isContinuation c then
              (utf8Chars (index + 3) rest).map
                (Char.ofNat (a.toNat % 16 * 4096 + payload b * 64 + payload c) :: ·)
            else .error (.invalid index 2)
        else .error (.invalid index 1)
    else if 0xF0 ≤ a && a ≤ 0xF4 then
      match rest with
      | [] => .error (.incomplete index)
      | b :: rest =>
        if continuesLead a b then
          match rest with
          | [] => .error (.incomplete index)
          | c :: rest =>
            if isContinuation c then
              match rest with
              | [] => .error (.incomplete index)
              | d :: rest =>
                if isContinuation d then
                  (utf8Chars (index + 4) rest).map
                    (Char.ofNat (a.toNat % 8 * 262144 + payload b * 4096 + payload c * 64
                      + payload d) :: ·)
                else .error (.invalid index 3)
            else .error (.invalid index 2)
        else .error (.invalid index 1)
    else .error (.invalid index 1)

def utf8Decode (bytes : List UInt8) : Except Utf8Fault String :=
  (utf8Chars 0 bytes).map String.ofList

def utf8Encode (s : String) : List UInt8 :=
  s.toList.flatMap String.utf8EncodeChar

end SqlSchema.Text
