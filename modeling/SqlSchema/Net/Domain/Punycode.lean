import SqlSchema.Text.Split

/-! Punycode: a label of any characters, written with letters, digits and hyphens. The ASCII
characters come first; behind the last hyphen stand numbers, each of which says how far the next
character is from the one before, in code points and in places. -/

namespace SqlSchema.Net.Domain

open SqlSchema.Text

/-- The value of a digit in base 36: the letters, then the ten digits. -/
def digit36? (c : Char) : Option Nat :=
  let n := c.toNat
  if 97 ≤ n && n ≤ 122 then some (n - 97)
  else if 65 ≤ n && n ≤ 90 then some (n - 65)
  else if 48 ≤ n && n ≤ 57 then some (n - 22)
  else none

/-- The threshold of the digit at a position, counted in steps of 36: a lower digit is the last of
its number. -/
def threshold (position bias : Nat) : Nat :=
  min 26 (max 1 (position - bias))

/-- A distance brought down to at most 455, and by how many positions. -/
def scaledDown (position delta : Nat) : Nat × Nat :=
  if 455 < delta then scaledDown (position + 36) (delta / 35) else (position, delta)
termination_by delta
decreasing_by omega

/-- The bias behind a number, from its size and from how many characters there are now. -/
def adaptedBias (delta count : Nat) (first : Bool) : Nat :=
  let delta := if first then delta / 700 else delta / 2
  let (position, delta) := scaledDown 0 (delta + delta / count)
  position + 36 * delta / (delta + 38)

/-- A decoding under way: the characters so far, the last code point, the place behind it, the bias,
and, within a number, the sum, the weight and the position of the next digit. -/
structure Decoding where
  output : List Char
  codePoint : Nat := 128
  place : Nat := 0
  bias : Nat := 72
  sum : Nat := 0
  weight : Nat := 1
  position : Nat := 36
  first : Bool := true

def Decoding.insert? (s : Decoding) (delta : Nat) : Option Decoding :=
  let count := s.output.length + 1
  let total := s.place + delta
  let codePoint := s.codePoint + total / count
  if codePoint.isValidChar then
    some
      { output := s.output.insertIdx (total % count) (Char.ofNat codePoint)
        codePoint := codePoint
        place := total % count + 1
        bias := adaptedBias delta count s.first
        first := false }
  else none

/-- The decoding of the rest, which must end with a number. -/
def Decoding.run? (s : Decoding) : List Char → Option (List Char)
  | [] => if s.position = 36 then some s.output else none
  | c :: rest =>
    match digit36? c with
    | none => none
    | some digit =>
      let sum := s.sum + digit * s.weight
      let t := threshold s.position s.bias
      if digit < t then (s.insert? sum).bind (·.run? rest)
      else
        { s with sum := sum, weight := s.weight * (36 - t), position := s.position + 36 }.run? rest

/-- The label that a text in Punycode spells. A hyphen in front has no characters before it and is
no digit either. -/
def ofPunycode? (cs : List Char) : Option (List Char) :=
  match cutLast? '-' cs with
  | some ([], _) => none
  | some (basic, numbers) =>
    if basic.all (·.toNat < 128) then ({ output := basic } : Decoding).run? numbers else none
  | none => ({ output := [] } : Decoding).run? cs

end SqlSchema.Net.Domain
