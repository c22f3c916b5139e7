import SqlSchema.Net.Domain.Composition
import SqlSchema.Net.Domain.Direction
import SqlSchema.Net.Domain.Joining

/-! What makes a label of a domain well formed: it starts with no mark, its joiners stand where a
script needs them, and it can be read in one direction only. -/

namespace SqlSchema.Net.Domain

open SqlSchema.Text

/-! ### Joiners -/

/-- Whether a text, read backwards, ends with a sign that kills a vowel. -/
def endsInVirama (before : List Char) : Bool :=
  match before with
  | c :: _ => markClass c == 9
  | [] => false

/-- Whether the letter before and the letter after a place join in a cursive script. -/
def joinsAcross (before after : List Char) : Bool :=
  ((before.dropWhile isTransparent).head?.any joinsNext)
    && ((after.dropWhile isTransparent).head?.any joinsPrevious)

/-- Whether all joiners of the rest of a label are needed: behind a virama, or, for the one that
keeps letters apart, between letters that would join. -/
def joinersFit (before : List Char) : List Char → Bool
  | [] => true
  | c :: rest =>
    let fits :=
      if c == '\u200c' then endsInVirama before || joinsAcross before rest
      else if c == '\u200d' then endsInVirama before
      else true
    fits && joinersFit (c :: before) rest

/-! ### Direction -/

def hasRight (label : List Char) : Bool :=
  label.any fun c => [.right, .arabic, .arabicNumber].contains (direction c)

/-- The classes that may stand in a label of either direction. -/
def isWeak (d : Direction) : Bool :=
  [.number, .numberSeparator, .commonSeparator, .numberTerminator, .neutral, .boundary,
    .nonspacing].contains d

/-- Whether a label may stand in a domain with characters from the right. Its first character fixes
its direction; every character must fit it, the last one firmly, and a label from the right has
numbers of one kind. -/
def directionFits (label : List Char) : Bool :=
  let classes := label.map direction
  let last := (classes.reverse.dropWhile (· == .nonspacing)).head?
  match classes with
  | [] => true
  | .left :: _ =>
    classes.all (fun d => d == .left || isWeak d)
      && last.any fun d => d == .left || d == .number
  | first :: _ =>
    (first == .right || first == .arabic)
      && classes.all (fun d => d == .right || d == .arabic || d == .arabicNumber || isWeak d)
      && last.any (fun d => d == .right || d == .arabic || d == .arabicNumber || d == .number)
      && !(classes.contains .number && classes.contains .arabicNumber)

def isWellFormed (label : List Char) : Bool :=
  !(label.head?.any isMark) && joinersFit [] label

end SqlSchema.Net.Domain
