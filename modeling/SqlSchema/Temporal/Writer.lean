import SqlSchema.Temporal.Time

/-! The written forms of dates and times. A fraction takes three, six or nine digits, the fewest
that hold it, and none when there is no fraction. -/

namespace SqlSchema.Temporal

/-- The digits of a number, with zeros in front up to a width. -/
def padded (width n : Nat) : List Char :=
  let digits := Nat.toDigits 10 n
  List.replicate (width - digits.length) '0' ++ digits

/-- A year: four digits from 0 to 9999, and otherwise a sign and at least four. -/
def yearChars (year : Int) : List Char :=
  if year < 0 then '-' :: padded 4 year.natAbs
  else if 9999 < year then '+' :: padded 4 year.natAbs
  else padded 4 year.natAbs

/-- A fraction of a second, its point included. -/
def fractionChars (nano : Nat) : List Char :=
  if nano = 0 then []
  else if nano % 1000000 = 0 then '.' :: padded 3 (nano / 1000000)
  else if nano % 1000 = 0 then '.' :: padded 6 (nano / 1000)
  else '.' :: padded 9 nano

def Date.chars (d : Date) : List Char :=
  yearChars d.year ++ '-' :: padded 2 d.month ++ '-' :: padded 2 d.day

def Time.chars (t : Time) : List Char :=
  padded 2 t.hour ++ ':' :: padded 2 t.minute ++ ':' :: padded 2 t.shownSecond
    ++ fractionChars t.fraction

def DateTime.chars (separator : Char) (m : DateTime) : List Char :=
  m.date.chars ++ separator :: m.time.chars

def Date.text (d : Date) : String :=
  String.ofList d.chars

def Time.text (t : Time) : String :=
  String.ofList t.chars

/-- A moment as statements hold it, with a space between date and time. -/
def DateTime.text (m : DateTime) : String :=
  String.ofList (m.chars ' ')

/-- A moment as documents hold it, with a `T` between date and time. -/
def DateTime.documentText (m : DateTime) : String :=
  String.ofList (m.chars 'T')

/-- A universal moment as documents hold it, with a `Z` at its end. -/
def DateTime.universalText (m : DateTime) : String :=
  String.ofList (m.chars 'T' ++ ['Z'])

end SqlSchema.Temporal
