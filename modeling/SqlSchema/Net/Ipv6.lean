import SqlSchema.Number.Reader
import SqlSchema.Text.Hex
import SqlSchema.Text.Joined
import SqlSchema.Text.Split

/-! Internet addresses of the sixth version: eight pieces of sixteen bits. A text may leave out one
run of zero pieces by a double colon, and may end in an address of the fourth version. -/

namespace SqlSchema.Net

open SqlSchema.Number SqlSchema.Text

/-- A piece: one to four hexadecimal digits. -/
def piece? (cs : List Char) : Option Nat :=
  if cs.isEmpty || 4 < cs.length then none
  else cs.foldlM (fun n c => (hexValue? c).map (16 * n + ·)) 0

/-- A number of a dotted address: at most 255, without zeros in front. -/
def octet? (cs : List Char) : Option Nat :=
  if cs.isEmpty || !cs.all isDigit || (cs.head? == some '0' && 1 < cs.length) then none
  else
    let n := digitsValue 0 cs
    if n ≤ 255 then some n else none

def dotted? (cs : List Char) : Option (List Nat) := do
  let octets ← (splitAt (· == '.') cs).mapM octet?
  match octets with
  | [a, b, c, d] => some [256 * a + b, 256 * c + d]
  | _ => none

/-- Pieces with colons between them. The last one may be a dotted address if `dotted` says so. -/
def pieces? (dotted : Bool) (cs : List Char) : Option (List Nat) :=
  if cs.isEmpty then some []
  else
    let groups := splitAt (· == ':') cs
    let last := groups.getLast?.getD []
    if dotted && last.contains '.' then do
      let front ← groups.dropLast.mapM piece?
      let back ← dotted? last
      return front ++ back
    else groups.mapM piece?

def cutDouble? : List Char → Option (List Char × List Char)
  | ':' :: ':' :: rest => some ([], rest)
  | c :: rest => (cutDouble? rest).map fun parts => (c :: parts.1, parts.2)
  | [] => none

def ipv6? (cs : List Char) : Option (List Nat) :=
  match cutDouble? cs with
  | some (front, back) => do
    let front ← pieces? false front
    let back ← pieces? true back
    if front.length + back.length ≤ 7 then
      some (front ++ List.replicate (8 - front.length - back.length) 0 ++ back)
    else none
  | none => do
    let all ← pieces? true cs
    if all.length = 8 then some all else none

def leadingZeros (pieces : List Nat) : Nat :=
  (pieces.takeWhile (· == 0)).length

/-- The place and the length of the first of the longest runs of zeros. -/
def longestZeros (index : Nat) : List Nat → Nat × Nat
  | [] => (index, 0)
  | n :: rest =>
    let here := leadingZeros (n :: rest)
    let later := longestZeros (index + 1) rest
    if later.2 ≤ here then (index, here) else later

def piecesText (pieces : List Nat) : String :=
  joined ":" (pieces.map hexNumber)

/-- The written form: the first of the longest runs of two and more zeros becomes a double colon. -/
def ipv6Text (pieces : List Nat) : String :=
  let (start, count) := longestZeros 0 pieces
  if count < 2 then piecesText pieces
  else piecesText (pieces.take start) ++ "::" ++ piecesText (pieces.drop (start + count))

end SqlSchema.Net
