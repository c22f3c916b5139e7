import SqlSchema.Text.Hex

/-! Universally unique identifiers: sixteen bytes, written as five hyphenated groups of hexadecimal
digits. Reading also accepts the digits alone, and the hyphenated form in braces or behind
`urn:uuid:`, in any case. -/

namespace SqlSchema

open SqlSchema.Text

structure Uuid where
  bytes : List UInt8
  size : bytes.length = 16 := by decide
  deriving Repr, DecidableEq

namespace Uuid

def nil : Uuid := ⟨List.replicate 16 0, by decide⟩

instance : Inhabited Uuid := ⟨nil⟩

def ofBytes? (bytes : List UInt8) : Option Uuid :=
  if h : bytes.length = 16 then some ⟨bytes, h⟩ else none

/-- Thirty-two digits in groups of eight, four, four, four and twelve, with hyphens between. -/
def hyphenated (digits : List Char) : List Char :=
  digits.take 8 ++ '-' :: (digits.drop 8).take 4 ++ '-' :: (digits.drop 12).take 4
    ++ '-' :: (digits.drop 16).take 4 ++ '-' :: digits.drop 20

def text (u : Uuid) : String :=
  String.ofList (hyphenated (u.bytes.flatMap hexByte))

/-- Why a text is not an identifier: a character that no form has, with its place in bytes, a
length that no form has, or groups of a wrong number or length. -/
inductive Fault
  | character (c : Char) (index : Nat)
  | length (count : Nat)
  | groupCount (count : Nat)
  | groupLength (group expected count : Nat)
  deriving Repr, DecidableEq

def Fault.message : Fault → String
  | .character c index => s!"invalid character: found `{c}` at {index}"
  | .length count => s!"invalid length: found {count}"
  | .groupCount count => s!"invalid group count: expected 5, found {count}"
  | .groupLength group expected count =>
    s!"invalid group length in group {group}: expected {expected}, found {count}"

/-- The digits of a hyphenated form, if its hyphens stand where they must. -/
def ungrouped? (cs : List Char) : Option (List Char) :=
  let digits := cs.take 8 ++ (cs.drop 9).take 4 ++ (cs.drop 14).take 4 ++ (cs.drop 19).take 4
    ++ cs.drop 24
  if hyphenated digits = cs then some digits else none

def ofHyphenated? (cs : List Char) : Option Uuid := do
  let digits ← ungrouped? cs
  let bytes ← hexBytes? digits
  ofBytes? bytes

def byteSize (cs : List Char) : Nat :=
  cs.foldl (fun size c => size + c.utf8Size) 0

def braced? (cs : List Char) : Option (List Char) :=
  match cs, cs.reverse with
  | '\x7b' :: rest, '\x7d' :: _ => if rest.isEmpty then none else some rest.dropLast
  | _, _ => none

/-- What follows `urn:uuid:`, in any case, at the start of a text. -/
def named? (cs : List Char) : Option (List Char) :=
  let head := "urn:uuid:".toList
  if (cs.take head.length).map Char.toLower = head then some (cs.drop head.length) else none

/-- The part of a text that its length and its frame demand to be hyphenated: all of it, or what
stands in braces or behind the name. -/
def framed? (cs : List Char) : Option (List Char) :=
  match byteSize cs with
  | 36 => some cs
  | 38 => braced? cs
  | 45 => named? cs
  | _ => none

/-- The identifier of a text in one of its forms, if it has one. -/
def ofChars? (cs : List Char) : Option Uuid :=
  if byteSize cs = 32 then (hexBytes? cs).bind ofBytes?
  else (framed? cs).bind ofHyphenated?

/-- The first character that is neither a digit nor a hyphen, with its place. -/
def firstForeign? (index : Nat) : List Char → Option (Char × Nat)
  | [] => none
  | c :: rest =>
    if c == '-' || (hexValue? c).isSome then firstForeign? (index + c.utf8Size) rest
    else some (c, index)

def hyphenPlaces (cs : List Char) : List Nat :=
  cs.zipIdx.filterMap fun entry => if entry.1 == '-' then some entry.2 else none

/-- The groups before the last: number, length, and the place of the first character. -/
def leadingGroups : List (Nat × Nat × Nat) :=
  [(0, 8, 0), (1, 4, 9), (2, 4, 14), (3, 4, 19)]

/-- What is wrong with the groups of a text of digits and hyphens, the whole text having `size`
bytes. -/
def groupFault (body : List Char) (size : Nat) : Fault :=
  let places := hyphenPlaces body
  if places.length ≠ 4 then .groupCount (places.length + 1)
  else
    let wrong := (leadingGroups.zip places).find? fun entry =>
      entry.2 ≠ entry.1.2.2 + entry.1.2.1
    match wrong with
    | some ((group, expected, start), place) => .groupLength group expected (place - start)
    | none => .groupLength 4 12 (size - 24)

/-- What is wrong with a text of digits and hyphens that is to start `offset` bytes into a text of
`size` bytes. -/
def bodyFault (body : List Char) (offset size : Nat) : Fault :=
  match firstForeign? offset body with
  | some (c, index) => .character c index
  | none => groupFault body size

def longestForm : Nat := 45

/-- What is wrong with a text that has no form of an identifier. Past the longest form only the
length counts; places are counted within the hyphenated part where there is one. -/
def faultOf (cs : List Char) : Fault :=
  let size := byteSize cs
  if longestForm < size then .length size
  else match framed? cs, braced? cs, named? cs with
    | some body, _, _ => bodyFault body 0 (byteSize body)
    | none, some body, _ => bodyFault body 1 size
    | none, none, some body => bodyFault body 9 size
    | none, none, none =>
      match firstForeign? 0 cs with
      | some (c, index) => .character c index
      | none => if (hyphenPlaces cs).isEmpty then .length size else groupFault cs size

def ofText (s : String) : Except Fault Uuid :=
  match ofChars? s.toList with
  | some u => .ok u
  | none => .error (faultOf s.toList)

end Uuid

end SqlSchema
