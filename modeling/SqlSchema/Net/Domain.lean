import SqlSchema.Net.Domain.Label
import SqlSchema.Net.Domain.Punycode
import SqlSchema.Net.Domain.Table

/-! Domains with characters beyond ASCII. Capitals, compatibility forms and the like are replaced,
characters without a trace are dropped, and labels that start with `xn--` are spelled out; a domain
is refused if one of its labels is not well formed then. -/

namespace SqlSchema.Net.Domain

open SqlSchema.Text

/-- What a block gives for a code point: the block lists it for its first code point and the
following ones. -/
def entry? {α : Type} (blocks : List (Nat × List α)) (n : Nat) : Option α :=
  blocks.findSome? fun block => if block.1 ≤ n then block.2[n - block.1]? else none

/-- What stands for a character in a domain; nothing does if no domain may have it. -/
def image? (c : Char) : Option (List Char) :=
  let n := c.toNat
  if n < 128 then some [c.toLower]
  else if inRanges refusedRanges n then none
  else if inRanges droppedRanges n then some []
  else match shifted? replacementRuns n, entry? replacements n, entry? expansions n with
    | some m, _, _ => some [Char.ofNat m]
    | none, some m, _ => some [Char.ofNat m]
    | none, none, some ms => some (ms.map Char.ofNat)
    | none, none, none => some [c]

def isKept (c : Char) : Bool :=
  image? c == some [c]

def punycodeMark : List Char := "xn--".toList

/-- A label in its plain form. A label in Punycode must spell one that is in plain form already and
could not be written without it. -/
def plainLabel? (label : List Char) : Option (List Char) :=
  if punycodeMark.isPrefixOf label then do
    let plain ← ofPunycode? (label.drop punycodeMark.length)
    if plain.all (·.toNat < 128) || !plain.all isKept || composed plain != plain
        || punycodeMark.isPrefixOf plain then none
    else some plain
  else some label

/-- The labels of a domain in their plain form. If one of them is written from the right, all have
to fit. -/
def plainLabels? (cs : List Char) : Option (List (List Char)) := do
  let images ← cs.mapM image?
  let labels ← (splitAt (· == '.') (composed images.flatten)).mapM plainLabel?
  if labels.all isWellFormed && (!labels.any hasRight || labels.all directionFits) then some labels
  else none

def plain? (cs : List Char) : Option (List Char) :=
  (plainLabels? cs).map (List.intercalate ['.'])

end SqlSchema.Net.Domain
