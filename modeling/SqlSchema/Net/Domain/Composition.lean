import SqlSchema.Net.Domain.Composition.Table

/-! Canonical composition. Two spellings of a text that differ only in how letters and marks are put
together, or in the order of marks that do not touch, have the same composed form. -/

namespace SqlSchema.Net.Domain

/-- The class by which a mark is ordered; letters and spacing marks have the class zero. -/
def markClass (c : Char) : Nat :=
  if c.toNat < 0x300 then 0
  else match markClasses.find? fun row => row.1 ≤ c.toNat && c.toNat ≤ row.2.1 with
    | some (_, _, rank) => rank
    | none => 0

/-! ### Hangul, whose syllables are counted -/

def hangulFirst : Nat := 0xAC00

def hangulCount : Nat := 11172

def leadingFirst : Nat := 0x1100

def leadingCount : Nat := 19

def vowelFirst : Nat := 0x1161

def vowelCount : Nat := 21

/-- The code point before the first trailing consonant. -/
def trailingBase : Nat := 0x11A7

/-- How many ways there are to end a syllable, with a trailing consonant or without. -/
def trailingCount : Nat := 28

/-- The pair that a syllable stands for: a shorter syllable and its trailing consonant, or its
leading consonant and its vowel. -/
def hangulPair? (n : Nat) : Option (Nat × Nat) :=
  let index := n - hangulFirst
  if n < hangulFirst || hangulCount ≤ index then none
  else if index % trailingCount = 0 then
    some (leadingFirst + index / (vowelCount * trailingCount),
      vowelFirst + index / trailingCount % vowelCount)
  else some (n - index % trailingCount, trailingBase + index % trailingCount)

def hangulOfPair? (a b : Nat) : Option Nat :=
  let isLeading := leadingFirst ≤ a && a < leadingFirst + leadingCount
  let isVowel := vowelFirst ≤ b && b < vowelFirst + vowelCount
  let isOpen := hangulFirst ≤ a && a < hangulFirst + hangulCount
    && (a - hangulFirst) % trailingCount == 0
  let isTrailing := trailingBase < b && b < trailingBase + trailingCount
  if isLeading && isVowel then
    some (hangulFirst
      + ((a - leadingFirst) * vowelCount + (b - vowelFirst)) * trailingCount)
  else if isOpen && isTrailing then some (a + (b - trailingBase))
  else none

/-! ### Taking apart -/

def pair? (c : Char) : Option (Nat × Nat) :=
  match hangulPair? c.toNat with
  | some pair => some pair
  | none =>
    if c.toNat < 0xC0 then none
    else (compositionPairs.find? (·.1 == c.toNat)).map fun row => row.2

/-- The longest chain of pairs, each the first part of the one before. -/
def longestChain : Nat := 3

/-- The letters and marks that a character stands for, at most so many pairs deep. -/
def parts : Nat → Char → List Char
  | 0, c => [c]
  | depth + 1, c =>
    match pair? c with
    | some (a, b) => parts depth (Char.ofNat a) ++ [Char.ofNat b]
    | none => [c]

/-- A character before an ordered text: a mark goes behind those of a lower class. -/
def place (c : Char) : List Char → List Char
  | [] => [c]
  | d :: rest =>
    if 0 < markClass d && markClass d < markClass c then d :: place c rest else c :: d :: rest

/-- A text taken apart, its marks in order. -/
def decomposed (cs : List Char) : List Char :=
  (cs.flatMap (parts longestChain)).foldr place []

/-! ### Putting together -/

def ofPair? (a b : Char) : Option Char :=
  match hangulOfPair? a.toNat b.toNat with
  | some n => some (Char.ofNat n)
  | none =>
    (compositionPairs.find? fun row => row.2 == (a.toNat, b.toNat)).map fun row => Char.ofNat row.1

/-- The rest of a text behind a letter and the marks that stayed apart from it, the last of them
first. A mark joins the letter unless one of no lower class stands between. -/
def compose (letter : Char) (marks : List Char) : List Char → List Char
  | [] => letter :: marks.reverse
  | c :: rest =>
    let free := match marks with
      | [] => true
      | last :: _ => markClass last < markClass c
    match if free then ofPair? letter c else none with
    | some joined => compose joined marks rest
    | none =>
      if markClass c = 0 then letter :: marks.reverse ++ compose c [] rest
      else compose letter (c :: marks) rest

def composed (cs : List Char) : List Char :=
  let ordered := decomposed cs
  let front := ordered.takeWhile fun c => 0 < markClass c
  match ordered.dropWhile fun c => 0 < markClass c with
  | [] => front
  | letter :: rest => front ++ compose letter [] rest

end SqlSchema.Net.Domain
