/-! Texts cut at marks. -/

namespace SqlSchema.Text

/-- The pieces between the characters that are marks; there is one piece more than marks. -/
def splitAt (isMark : Char → Bool) : List Char → List (List Char)
  | [] => [[]]
  | c :: rest =>
    if isMark c then [] :: splitAt isMark rest
    else match splitAt isMark rest with
      | piece :: pieces => (c :: piece) :: pieces
      | [] => [[c]]

/-- What stands before the first mark and what stands behind it, which is nothing if there is no
mark. -/
def cutFirst (mark : Char) (cs : List Char) : List Char × List Char :=
  (cs.takeWhile (· != mark), (cs.dropWhile (· != mark)).drop 1)

/-- What stands before the last mark and what stands behind it, if there is a mark. -/
def cutLast? (mark : Char) (cs : List Char) : Option (List Char × List Char) :=
  if cs.contains mark then
    let behind := (cs.reverse.takeWhile (· != mark)).reverse
    some (cs.take (cs.length - behind.length - 1), behind)
  else none

/-- The characters whose code is in the range of control characters or is the space. -/
def isControlOrSpace (c : Char) : Bool :=
  c.toNat ≤ 0x20

def isControl (c : Char) : Bool :=
  c.toNat < 0x20 || c.toNat == 0x7F

def isLetter (c : Char) : Bool :=
  (65 ≤ c.toNat && c.toNat ≤ 90) || (97 ≤ c.toNat && c.toNat ≤ 122)

end SqlSchema.Text
