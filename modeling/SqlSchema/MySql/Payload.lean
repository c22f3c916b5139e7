import SqlSchema.Number.Binary
import SqlSchema.Number.LittleEndian
import SqlSchema.Temporal.Time

/-! Dates and times in cells of the binary protocol: a length and fields of fixed width, of which
those at the end may be left out when they are zero. -/

namespace SqlSchema.MySql

open SqlSchema.Number SqlSchema.Temporal

/-- The content behind the length of a cell, if it has that length. -/
def content? : List UInt8 → Option (List UInt8)
  | [] => none
  | length :: content => if content.length = length.toNat then some content else none

/-- A date in the first four bytes. Without them there is none. -/
def date? : List UInt8 → Option Date
  | y0 :: y1 :: month :: day :: _ => Date.of? (littleEndian [y0, y1]) month.toNat day.toNat
  | _ => none

/-- A time of day: hours, minutes and seconds, and microseconds if they are there. -/
def clock? : List UInt8 → Option Time
  | hour :: minute :: second :: micros =>
    Time.of? hour.toNat minute.toNat second.toNat (1000 * littleEndian micros)
  | _ => none

/-- A date with a time of day, midnight if there is none. -/
def moment? (content : List UInt8) : Option DateTime := do
  let date ← date? content
  let rest := content.drop 4
  let time ← if rest.isEmpty then some .midnight else clock? rest
  return ⟨date, time⟩

/-- Whether a duration is written with a sign that it may have: a negative one must be zero to be a
time of day. -/
def signIsFine (sign : UInt8) (rest : List UInt8) : Bool :=
  sign == 0 || (sign == 1 && rest.all (· == 0))

/-- A duration that is a time of day: a sign, no days, and the time. No content is midnight. -/
def duration? : List UInt8 → Option Time
  | [] => some .midnight
  | sign :: d0 :: d1 :: d2 :: d3 :: rest =>
    if littleEndian [d0, d1, d2, d3] = 0 ∧ signIsFine sign rest = true
        ∧ (rest.length = 3 ∨ rest.length = 7) ∧ littleEndian (rest.drop 3) < 1000000 then
      clock? rest
    else none
  | _ => none

end SqlSchema.MySql
