/-! Blank text. A character is blank when it has the Unicode property White_Space, which includes
the no-break and the ideographic space and excludes the zero-width ones. -/

namespace SqlSchema.Text

/-- Whether a character has the property White_Space. -/
def isBlankChar (c : Char) : Bool :=
  let n := c.toNat
  (0x09 ≤ n && n ≤ 0x0D) || n == 0x20 || n == 0x85 || n == 0xA0 || n == 0x1680
    || (0x2000 ≤ n && n ≤ 0x200A) || n == 0x2028 || n == 0x2029 || n == 0x202F
    || n == 0x205F || n == 0x3000

def dropBlanks (cs : List Char) : List Char :=
  cs.dropWhile isBlankChar

def trim (s : String) : String :=
  String.ofList (dropBlanks (dropBlanks s.toList).reverse).reverse

/-- Whether a text holds blanks only; the empty text does. -/
def isBlank (s : String) : Bool :=
  s.toList.all isBlankChar

end SqlSchema.Text
