import SqlSchema.Number.Binary

/-! Numbers read from text: a sign, digits with or without a point, and an exponent. The words for
the infinities and for not-a-number are read in any case. -/

namespace SqlSchema.Number

/-- Whether a character is one of the ten ASCII digits. -/
def isDigit (c : Char) : Bool :=
  48 ≤ c.toNat && c.toNat ≤ 57

/-- The number that a list of digits spells, read from the value before it. -/
def digitsValue (before : Nat) (digits : List Char) : Nat :=
  digits.foldl (fun n c => 10 * n + (c.toNat - 48)) before

def spanDigits (cs : List Char) : List Char × List Char :=
  (cs.takeWhile isDigit, cs.dropWhile isDigit)

/-- A sign, if there is one, and the rest: whether it is a minus. -/
def takeSign : List Char → Bool × List Char
  | '-' :: rest => (true, rest)
  | '+' :: rest => (false, rest)
  | cs => (false, cs)

/-- An exponent with its mark, which must be the whole of the text; no text is the exponent zero. -/
def exponent? : List Char → Option Int
  | [] => some 0
  | mark :: rest =>
    if mark == 'e' || mark == 'E' then
      let (negative, digits) := takeSign rest
      if digits.isEmpty || !digits.all isDigit then none
      else some (if negative then -(digitsValue 0 digits : Int) else digitsValue 0 digits)
    else none

/-- An unsigned decimal number: digits, a point and digits, at least one digit in all, and an
exponent. -/
def digits? (cs : List Char) : Option Digits :=
  let (whole, rest) := spanDigits cs
  let (fraction, rest) := match rest with
    | '.' :: rest => spanDigits rest
    | _ => ([], rest)
  if whole.isEmpty && fraction.isEmpty then none
  else (exponent? rest).map fun e =>
    ⟨digitsValue 0 (whole ++ fraction), e - fraction.length⟩

def Binary.ofText? {f : BinaryFormat} (s : String) : Option (Binary f) :=
  let (negative, body) := takeSign s.toList
  let word := body.map Char.toLower
  if word == "inf".toList || word == "infinity".toList then some (.infinite negative)
  else if word == "nan".toList then some { (Binary.nan : Binary f) with negative := negative }
  else (digits? body).map (.ofDigits negative)

end SqlSchema.Number
