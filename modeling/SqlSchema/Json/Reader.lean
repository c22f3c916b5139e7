import SqlSchema.Json.Basic
import SqlSchema.Number.Reader
import SqlSchema.Text.Hex

/-! JSON text read as a document. A text that is not JSON is refused with the fault found first and
its place: the line, and the number of bytes within it up to and including the offending one. A
name that an object repeats keeps its first place and its last value. -/

namespace SqlSchema.Json

open SqlSchema.Number SqlSchema.Text

/-- What is wrong with a text. -/
inductive Fault
  | endInValue
  | endInString
  | endInList
  | endInObject
  | expectedColon
  | expectedCommaOrBracket
  | expectedCommaOrBrace
  | expectedWord
  | expectedValue
  | invalidEscape
  | invalidNumber
  | numberOutOfRange
  | invalidSurrogate
  | missingSurrogate
  | controlCharacter
  | keyNotString
  | trailingComma
  | trailingCharacters
  | tooDeep
  deriving Repr, DecidableEq

def Fault.message : Fault → String
  | .endInValue => "EOF while parsing a value"
  | .endInString => "EOF while parsing a string"
  | .endInList => "EOF while parsing a list"
  | .endInObject => "EOF while parsing an object"
  | .expectedColon => "expected `:`"
  | .expectedCommaOrBracket => "expected `,` or `]`"
  | .expectedCommaOrBrace => "expected `,` or `\x7d`"
  | .expectedWord => "expected ident"
  | .expectedValue => "expected value"
  | .invalidEscape => "invalid escape"
  | .invalidNumber => "invalid number"
  | .numberOutOfRange => "number out of range"
  | .invalidSurrogate => "lone leading surrogate in hex escape"
  | .missingSurrogate => "unexpected end of hex escape"
  | .controlCharacter => "control character (\\u0000-\\u001F) found while parsing a string"
  | .keyNotString => "key must be a string"
  | .trailingComma => "trailing comma"
  | .trailingCharacters => "trailing characters"
  | .tooDeep => "recursion limit exceeded"

/-- A fault with its line, counted from one, and its column in bytes. -/
structure ReadError where
  fault : Fault
  line : Nat
  column : Nat
  deriving Repr, DecidableEq

def ReadError.message (e : ReadError) : String :=
  s!"{e.fault.message} at line {e.line} column {e.column}"

/-- A place in a text: what is still to be read, the line, and the bytes of the line read so
far. -/
structure Cursor where
  rest : List Char
  line : Nat
  column : Nat

namespace Cursor

def start (s : String) : Cursor :=
  ⟨s.toList, 1, 0⟩

def advance (place : Cursor) : Cursor :=
  match place.rest with
  | [] => place
  | c :: rest =>
    if c == '\n' then ⟨rest, place.line + 1, 0⟩ else ⟨rest, place.line, place.column + c.utf8Size⟩

def peek (place : Cursor) : Option Char :=
  place.rest.head?

/-- A fault at the bytes read so far. -/
def fail {α : Type} (place : Cursor) (fault : Fault) : Except ReadError α :=
  .error ⟨fault, place.line, place.column⟩

/-- A fault at the byte to be read next, or at the last one when none is left. -/
def failNext {α : Type} (place : Cursor) (fault : Fault) : Except ReadError α :=
  match place.rest with
  | [] => place.fail fault
  | c :: _ =>
    if c == '\n' then .error ⟨fault, place.line + 1, 0⟩
    else .error ⟨fault, place.line, place.column + 1⟩

/-- The place after the blanks that JSON allows between tokens. -/
def skipBlanks (place : Cursor) : Cursor :=
  go place.rest place.line place.column
where
  go : List Char → Nat → Nat → Cursor
    | [], line, column => ⟨[], line, column⟩
    | c :: rest, line, column =>
      if c == '\n' then go rest (line + 1) 0
      else if c == ' ' || c == '\t' || c == '\r' then go rest line (column + 1)
      else ⟨c :: rest, line, column⟩

def takeDigits (place : Cursor) : List Char × Cursor :=
  let (digits, rest) := spanDigits place.rest
  (digits, ⟨rest, place.line, place.column + digits.length⟩)

/-- The place `count` bytes further on, or none if the text is shorter. A character that straddles
the end counts with the bytes before it. -/
def skipBytes (place : Cursor) : Nat → Option Cursor :=
  go place.rest place.line place.column
where
  go : List Char → Nat → Nat → Nat → Option Cursor
    | rest, line, column, 0 => some ⟨rest, line, column⟩
    | [], _, _, _ + 1 => none
    | c :: rest, line, column, count + 1 =>
      if c == '\n' then go rest (line + 1) 0 count
      else if count + 1 < c.utf8Size then some ⟨rest, line, column + (count + 1)⟩
      else go rest line (column + c.utf8Size) (count + 1 - c.utf8Size)

def atEnd (place : Cursor) : Cursor :=
  go place.rest place.line place.column
where
  go : List Char → Nat → Nat → Cursor
    | [], line, column => ⟨[], line, column⟩
    | c :: rest, line, column =>
      if c == '\n' then go rest (line + 1) 0 else go rest line (column + c.utf8Size)

end Cursor

/-- The rest of a word whose first letter has been recognised. -/
def readWord : List Char → Cursor → Except ReadError Cursor
  | [], place => .ok place
  | c :: rest, place =>
    match place.peek with
    | none => place.fail .endInValue
    | some d => if d == c then readWord rest place.advance else place.failNext .expectedWord

def exponentLimit : Nat := 2147483647

/-- The digits of an exponent: their value, or none when it passes the limit, with the place after
the digit that settled it. -/
def readExponentDigits (value : Nat) : List Char → Cursor → Option Nat × Cursor
  | [], place => (some value, place)
  | c :: rest, place =>
    if isDigit c then
      let value := 10 * value + (c.toNat - 48)
      if exponentLimit < value then (none, place.advance)
      else readExponentDigits value rest place.advance
    else (some value, place)

/-- The number with the given sign, digits and exponent, unless it is too large. -/
def finishFloat (negative : Bool) (d : Digits) (place : Cursor) :
    Except ReadError (Json × Cursor) :=
  let x : Double := .ofDigits negative d
  if x.isFinite then .ok (.float x, place) else place.fail .numberOutOfRange

def readExponent (negative : Bool) (coefficient : Nat) (places : Nat) (place : Cursor) :
    Except ReadError (Json × Cursor) :=
  let (down, place) := match place.peek with
    | some '+' => (false, place.advance)
    | some '-' => (true, place.advance)
    | _ => (false, place)
  match place.peek with
  | none => place.fail .endInValue
  | some c =>
    if isDigit c then
      match readExponentDigits 0 place.rest place with
      | (some value, place) =>
        let exponent : Int := if down then -(value : Int) else value
        finishFloat negative ⟨coefficient, exponent - places⟩ place
      | (none, place) =>
        if coefficient ≠ 0 && !down then place.fail .numberOutOfRange
        else .ok (.float (.zero negative), place.takeDigits.2)
    else place.failNext .invalidNumber

def readFraction (negative : Bool) (whole : List Char) (place : Cursor) :
    Except ReadError (Json × Cursor) :=
  let (fraction, after) := place.takeDigits
  if fraction.isEmpty then
    match after.peek with
    | none => after.fail .endInValue
    | some _ => after.failNext .invalidNumber
  else
    let coefficient := digitsValue 0 (whole ++ fraction)
    match after.peek with
    | some 'e' | some 'E' => readExponent negative coefficient fraction.length after.advance
    | _ => finishFloat negative ⟨coefficient, -fraction.length⟩ after

/-- A whole number: an integer if it fits 64 bits, with or without a sign, and a float otherwise;
so is minus zero. -/
def wholeNumber (negative : Bool) (value : Nat) : Json :=
  if negative then
    if value = 0 || powerOfTwo 63 < value then .float (.ofDigits true ⟨value, 0⟩)
    else .integer (-(value : Int))
  else if value < powerOfTwo 64 then .integer value
  else .float (.ofDigits false ⟨value, 0⟩)

/-- A number, from behind its sign. -/
def readNumber (negative : Bool) (place : Cursor) : Except ReadError (Json × Cursor) :=
  match place.peek with
  | none => place.fail .endInValue
  | some first =>
    if isDigit first then
      let (digits, after) :=
        if first == '0' then (['0'], place.advance) else place.takeDigits
      match after.peek with
      | some '.' => readFraction negative digits after.advance
      | some 'e' | some 'E' => readExponent negative (digitsValue 0 digits) 0 after.advance
      | next =>
        if first == '0' && next.any isDigit then after.failNext .invalidNumber
        else
          let number := wholeNumber negative (digitsValue 0 digits)
          match number with
          | .float x => if x.isFinite then .ok (number, after) else after.fail .numberOutOfRange
          | _ => .ok (number, after)
    else place.failNext .invalidNumber

/-- The value of four hexadecimal digits, and the place after the four bytes they take. -/
def readHexEscape (place : Cursor) : Except ReadError (Nat × Cursor) :=
  match place.skipBytes 4 with
  | none => place.atEnd.fail .endInString
  | some after =>
    match place.rest with
    | a :: b :: c :: d :: _ =>
      match hexValue? a, hexValue? b, hexValue? c, hexValue? d with
      | some a, some b, some c, some d => .ok (((a * 16 + b) * 16 + c) * 16 + d, after)
      | _, _, _, _ => after.fail .invalidEscape
    | _ => after.fail .invalidEscape

/-- The character of an escape by number. Two escapes together give a character beyond the first
65536. -/
def readUnicodeEscape (place : Cursor) : Except ReadError (Char × Cursor) := do
  let (high, place) ← readHexEscape place
  if 0xDC00 ≤ high && high ≤ 0xDFFF then place.fail .invalidSurrogate
  else if high < 0xD800 || 0xDBFF < high then return (Char.ofNat high, place)
  else
    match place.peek with
    | none => place.fail .endInString
    | some '\\' =>
      let place := place.advance
      match place.peek with
      | none => place.fail .endInString
      | some 'u' => do
        let (low, place) ← readHexEscape place.advance
        if low < 0xDC00 || 0xDFFF < low then place.fail .invalidSurrogate
        else return (Char.ofNat ((high - 0xD800) * 1024 + (low - 0xDC00) + 0x10000), place)
      | some _ => place.failNext .missingSurrogate
    | some _ => place.failNext .missingSurrogate

def readEscape (place : Cursor) : Except ReadError (Char × Cursor) :=
  match place.peek with
  | none => place.fail .endInString
  | some '\x22' => .ok ('\x22', place.advance)
  | some '\\' => .ok ('\\', place.advance)
  | some '/' => .ok ('/', place.advance)
  | some 'b' => .ok ('\x08', place.advance)
  | some 'f' => .ok ('\x0c', place.advance)
  | some 'n' => .ok ('\n', place.advance)
  | some 'r' => .ok ('\r', place.advance)
  | some 't' => .ok ('\t', place.advance)
  | some 'u' => readUnicodeEscape place.advance
  | some _ => place.failNext .invalidEscape

/-- The characters of a string up to its closing quote, in reverse; `fuel` bounds their number. -/
def readString (fuel : Nat) (read : List Char) (place : Cursor) :
    Except ReadError (String × Cursor) :=
  match fuel with
  | 0 => place.fail .endInString
  | fuel + 1 =>
    match place.peek with
    | none => place.fail .endInString
    | some '\x22' => .ok (String.ofList read.reverse, place.advance)
    | some '\\' => do
      let (c, place) ← readEscape place.advance
      readString fuel (c :: read) place
    | some c =>
      if c.toNat < 0x20 then place.failNext .controlCharacter
      else readString fuel (c :: read) place.advance

/-- How many containers may be open at once. -/
def depthLimit : Nat := 127

mutual

/-- A document. `depth` is how many more containers may be opened, and `fuel` bounds the number of
steps. -/
def readValue (fuel depth : Nat) (place : Cursor) : Except ReadError (Json × Cursor) :=
  match fuel with
  | 0 => place.fail .endInValue
  | fuel + 1 =>
    let place := place.skipBlanks
    match place.peek with
    | none => place.fail .endInValue
    | some 'n' => (readWord "ull".toList place.advance).map (.null, ·)
    | some 't' => (readWord "rue".toList place.advance).map (.bool true, ·)
    | some 'f' => (readWord "alse".toList place.advance).map (.bool false, ·)
    | some '-' => readNumber true place.advance
    | some '\x22' =>
      (readString (place.rest.length + 1) [] place.advance).map fun r => (.text r.1, r.2)
    | some '[' =>
      match depth with
      | 0 => place.failNext .tooDeep
      | depth + 1 => readItems fuel depth [] place.advance
    | some '\x7b' =>
      match depth with
      | 0 => place.failNext .tooDeep
      | depth + 1 => readMembers fuel depth [] place.advance
    | some c => if isDigit c then readNumber false place else place.failNext .expectedValue

/-- The items of a list after those already read, which are given in reverse. -/
def readItems (fuel depth : Nat) (read : List Json) (place : Cursor) :
    Except ReadError (Json × Cursor) :=
  match fuel with
  | 0 => place.fail .endInList
  | fuel + 1 =>
    let place := place.skipBlanks
    match place.peek with
    | none => place.fail .endInList
    | some ']' => .ok (.list read.reverse, place.advance)
    | some c =>
      if read.isEmpty then do
        let (item, place) ← readValue fuel depth place
        readItems fuel depth [item] place
      else if c == ',' then
        let place := place.advance.skipBlanks
        match place.peek with
        | none => place.fail .endInValue
        | some ']' => place.failNext .trailingComma
        | some _ => do
          let (item, place) ← readValue fuel depth place
          readItems fuel depth (item :: read) place
      else place.failNext .expectedCommaOrBracket

def readMembers (fuel depth : Nat) (read : List (String × Json)) (place : Cursor) :
    Except ReadError (Json × Cursor) :=
  match fuel with
  | 0 => place.fail .endInObject
  | fuel + 1 =>
    let place := place.skipBlanks
    match place.peek with
    | none => place.fail .endInObject
    | some '\x7d' => .ok (.object read, place.advance)
    | some c =>
      if read.isEmpty then
        if c == '\x22' then do
          let (member, place) ← readMember fuel depth place
          readMembers fuel depth [member] place
        else place.failNext .keyNotString
      else if c == ',' then
        let place := place.advance.skipBlanks
        match place.peek with
        | none => place.fail .endInValue
        | some '\x22' => do
          let (member, place) ← readMember fuel depth place
          readMembers fuel depth (Keyed.put member.1 member.2 read) place
        | some '\x7d' => place.failNext .trailingComma
        | some _ => place.failNext .keyNotString
      else place.failNext .expectedCommaOrBrace

/-- One member, from its opening quote. -/
def readMember (fuel depth : Nat) (place : Cursor) :
    Except ReadError ((String × Json) × Cursor) :=
  match fuel with
  | 0 => place.fail .endInObject
  | fuel + 1 => do
    let (name, place) ← readString (place.rest.length + 1) [] place.advance
    let place := place.skipBlanks
    match place.peek with
    | none => place.fail .endInObject
    | some ':' =>
      let (value, place) ← readValue fuel depth place.advance
      return ((name, value), place)
    | some _ => place.failNext .expectedColon

end

def parse (s : String) : Except ReadError Json := do
  let (doc, place) ← readValue (3 * s.length + 3) depthLimit (.start s)
  let place := place.skipBlanks
  match place.peek with
  | none => return doc
  | some _ => place.failNext .trailingCharacters

end SqlSchema.Json
