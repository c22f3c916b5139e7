import SqlSchema.Number.Reader
import SqlSchema.Temporal.Time
import SqlSchema.Text.Blank

/-! Dates and times read from text. Fields need no padding and may follow blanks. Two layouts are
known: the loose one, for documents, allows blanks before the marks between fields and at the end,
and the strict one, for stored cells, does not. -/

namespace SqlSchema.Temporal

open SqlSchema.Number SqlSchema.Text

inductive Fault
  | invalid
  | tooShort
  | trailing
  | outOfRange
  | impossible
  deriving Repr, DecidableEq

def Fault.message : Fault → String
  | .invalid => "input contains invalid characters"
  | .tooShort => "premature end of input"
  | .trailing => "trailing input"
  | .outOfRange => "input is out of range"
  | .impossible => "no possible date and time matching input"

/-- Where blanks may stand. -/
inductive Layout
  | loose
  | strict
  deriving Repr, DecidableEq

/-- The text after the blanks that a layout allows between fields. -/
def Layout.skip : Layout → List Char → List Char
  | .loose, cs => dropBlanks cs
  | .strict, cs => cs

/-- A number of at least one and at most `most` digits. -/
def readDigits (most : Nat) : List Char → Except Fault (Nat × List Char)
  | [] => .error .tooShort
  | c :: rest =>
    if isDigit c then
      let digits := ((c :: rest).take most).takeWhile isDigit
      .ok (digitsValue 0 digits, (c :: rest).drop digits.length)
    else .error .invalid

/-- A field of at most two digits between bounds, after blanks. -/
def readField (least greatest : Nat) (cs : List Char) : Except Fault (Nat × List Char) := do
  let (n, rest) ← readDigits 2 (dropBlanks cs)
  if least ≤ n ∧ n ≤ greatest then return (n, rest) else throw .outOfRange

def expect (mark : Char) : List Char → Except Fault (List Char)
  | [] => .error .tooShort
  | c :: rest => if c == mark then .ok rest else .error .invalid

/-- A year, after blanks: up to four digits, or a sign and any number of them. -/
def readYear (cs : List Char) : Except Fault (Int × List Char) :=
  match dropBlanks cs with
  | '-' :: rest => do
    let (n, rest) ← readDigits rest.length rest
    if n ≤ powerOfTwo 31 then return (-(n : Int), rest) else throw .outOfRange
  | '+' :: rest => do
    let (n, rest) ← readDigits rest.length rest
    if n < powerOfTwo 31 then return ((n : Int), rest) else throw .outOfRange
  | cs => do
    let (n, rest) ← readDigits 4 cs
    return ((n : Int), rest)

/-- The three numbers of a date, of which nothing is known but their own bounds. -/
structure DateFields where
  year : Int
  month : Nat
  day : Nat

def DateFields.date (d : DateFields) : Except Fault Date :=
  match Date.of? d.year d.month d.day with
  | some date => .ok date
  | none => .error .outOfRange

def readDateFields (layout : Layout) (cs : List Char) : Except Fault (DateFields × List Char) := do
  let (year, cs) ← readYear cs
  let cs ← expect '-' (layout.skip cs)
  let (month, cs) ← readField 1 12 cs
  let cs ← expect '-' (layout.skip cs)
  let (day, cs) ← readField 1 31 cs
  return (⟨year, month, day⟩, cs)

/-- A fraction of a second, if there is a point: nanoseconds, digits past the ninth being
dropped. -/
def readFraction : List Char → Except Fault (Nat × List Char)
  | '.' :: rest => do
    let (n, rest') ← readDigits 9 rest
    let count := rest.length - rest'.length
    return (n * powerOfTen (9 - count), rest'.dropWhile isDigit)
  | cs => .ok (0, cs)

/-- The time that numbers name; the sixtieth second is a leap second. -/
def timeOfFields (hour minute second nano : Nat) : Except Fault Time :=
  let time :=
    if second = 60 then Time.of? hour minute 59 (secondLength + nano)
    else Time.of? hour minute second nano
  match time with
  | some time => .ok time
  | none => .error .outOfRange

def readMinute (layout : Layout) (cs : List Char) : Except Fault ((Nat × Nat) × List Char) := do
  let (hour, cs) ← readField 0 23 cs
  let cs ← expect ':' (layout.skip cs)
  let (minute, cs) ← readField 0 59 cs
  return ((hour, minute), cs)

/-- A second with its fraction, from the colon before it on. -/
def readSecond (layout : Layout) (cs : List Char) : Except Fault ((Nat × Nat) × List Char) := do
  let cs ← expect ':' (layout.skip cs)
  let (second, cs) ← readField 0 60 cs
  let (nano, cs) ← readFraction cs
  return ((second, nano), layout.skip cs)

def readTime (layout : Layout) (cs : List Char) : Except Fault (Time × List Char) := do
  let ((hour, minute), cs) ← readMinute layout cs
  let ((second, nano), cs) ← readSecond layout cs
  let time ← timeOfFields hour minute second nano
  return (time, cs)

def expectEnd : List Char → Except Fault Unit
  | [] => .ok ()
  | _ :: _ => .error .trailing

def Date.read (layout : Layout) (s : String) : Except Fault Date := do
  let (fields, cs) ← readDateFields layout s.toList
  expectEnd (layout.skip cs)
  fields.date

/-- The time that a whole text spells, its seconds being required. -/
def Time.readFull (s : String) : Except Fault Time := do
  let (time, cs) ← readTime .strict s.toList
  expectEnd cs
  return time

/-- The time that a whole text spells. Seconds may be missing, and what does not read as seconds is
left over. -/
def Time.read (s : String) : Except Fault Time := do
  let ((hour, minute), cs) ← readMinute .loose s.toList
  let ((second, nano), cs) :=
    match readSecond .loose cs with
    | .ok found => found
    | .error _ => ((0, 0), cs)
  expectEnd (dropBlanks cs)
  timeOfFields hour minute second nano

/-- The moment that a whole text spells in the loose layout, with a `T` between date and time. -/
def DateTime.read (s : String) : Except Fault DateTime := do
  let (fields, cs) ← readDateFields .loose s.toList
  let cs ← expect 'T' (dropBlanks cs)
  let (time, cs) ← readTime .loose cs
  expectEnd cs
  return ⟨← fields.date, time⟩

/-- The moment that a whole text spells in the strict layout: date and time apart by any number of
blanks, or by a `T`. -/
def DateTime.readCell (s : String) : Except Fault DateTime :=
  match separated fun cs => .ok (dropBlanks cs) with
  | .ok moment => .ok moment
  | .error _ => separated (expect 'T')
where
  separated (between : List Char → Except Fault (List Char)) : Except Fault DateTime := do
    let (fields, cs) ← readDateFields .strict s.toList
    let (time, cs) ← readTime .strict (← between cs)
    expectEnd cs
    return ⟨← fields.date, time⟩

/-- Two digits. A single character beyond ASCII is refused for what it is, not for the end after
it. -/
def readTwoDigits : List Char → Except Fault (Nat × List Char)
  | a :: b :: rest =>
    if isDigit a && isDigit b then .ok (digitsValue 0 [a, b], rest) else .error .invalid
  | [a] => if a.toNat < 128 then .error .tooShort else .error .invalid
  | [] => .error .tooShort

/-- How many minutes a clock is ahead of universal time, from behind the sign: hours and minutes of
two digits each, colons and blanks between them being skipped. -/
def readOffset (cs : List Char) : Except Fault (Nat × List Char) := do
  let (hours, cs) ← readTwoDigits cs
  let (minutes, cs) ← readTwoDigits (cs.dropWhile fun c => c == ':' || isBlankChar c)
  if 60 ≤ minutes then throw .outOfRange
  return (60 * hours + minutes, cs)

/-- A time zone: universal time as `UTC` or `Z` in either case, or a signed offset in minutes. The
minus sign of typography is a sign too. -/
def readZone (cs : List Char) : Except Fault (Int × List Char) :=
  if (cs.take 3).map Char.toLower == "utc".toList then .ok (0, cs.drop 3)
  else match cs with
    | [] => .error .tooShort
    | c :: rest =>
      if c == 'Z' || c == 'z' then .ok (0, rest)
      else if c == '+' then (readOffset rest).map fun r => ((r.1 : Int), r.2)
      else if c == '-' || c == '\u2212' then (readOffset rest).map fun r => (-(r.1 : Int), r.2)
      else .error .invalid

/-- The moment in universal time that a whole text with a time zone spells. -/
def DateTime.readZoned (s : String) : Except Fault DateTime := do
  let (fields, cs) ← readDateFields .loose s.toList
  let cs ←
    match cs with
    | [] => throw .tooShort
    | c :: rest => if c == 't' || c == 'T' || c == ' ' then pure rest else throw .invalid
  let (time, cs) ← readTime .loose cs
  let (ahead, cs) ← readZone cs
  expectEnd (dropBlanks cs)
  let date ← fields.date
  if 1440 ≤ ahead.natAbs then throw .outOfRange
  match DateTime.toUniversal? ⟨date, time⟩ ahead with
  | some moment => return moment
  | none => throw .impossible

end SqlSchema.Temporal
