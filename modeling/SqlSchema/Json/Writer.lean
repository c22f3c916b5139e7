import SqlSchema.Json.Basic
import SqlSchema.Text.Hex

/-! Compact JSON text: no blanks, members in order, characters beyond ASCII as they are. -/

namespace SqlSchema.Json

open SqlSchema.Number SqlSchema.Text

/-- A 64-bit number is written positionally when its first digit has a power of ten from -5 to
15. -/
def doubleRange : PlainRange := ⟨-5, 15⟩

/-- A 32-bit number is written positionally when its first digit has a power of ten from -6 to
12. -/
def singleRange : PlainRange := ⟨-6, 12⟩

/-- The text of a number with a point; one that is not finite is written as null. -/
def floatText {f : BinaryFormat} (range : PlainRange) (x : Binary f) : String :=
  if x.isFinite then x.pointed range else "null"

/-- The form of one character inside a string: the quote, the backslash and the controls are
escaped. -/
def escapedChar (c : Char) : List Char :=
  if c == '\x22' || c == '\\' then ['\\', c]
  else if c == '\n' then ['\\', 'n']
  else if c == '\r' then ['\\', 'r']
  else if c == '\t' then ['\\', 't']
  else if c == '\x08' then ['\\', 'b']
  else if c == '\x0c' then ['\\', 'f']
  else if c.toNat < 0x20 then
    ['\\', 'u', '0', '0', hexDigit (c.toNat / 16), hexDigit (c.toNat % 16)]
  else [c]

def stringChars (s : String) : List Char :=
  '\x22' :: s.toList.flatMap escapedChar ++ ['\x22']

mutual

def chars : Json → List Char
  | .null => "null".toList
  | .bool true => "true".toList
  | .bool false => "false".toList
  | .integer n => (toString n).toList
  | .float x => (floatText doubleRange x).toList
  | .single x => (floatText singleRange x).toList
  | .text s => stringChars s
  | .list items => '[' :: itemChars items ++ [']']
  | .object members => '\x7b' :: memberChars members ++ ['\x7d']

def itemChars : List Json → List Char
  | [] => []
  | [item] => item.chars
  | item :: rest => item.chars ++ ',' :: itemChars rest

def memberChars : List (String × Json) → List Char
  | [] => []
  | [(name, value)] => stringChars name ++ ':' :: value.chars
  | (name, value) :: rest => stringChars name ++ ':' :: value.chars ++ ',' :: memberChars rest

end

def compact (doc : Json) : String :=
  String.ofList doc.chars

end SqlSchema.Json
