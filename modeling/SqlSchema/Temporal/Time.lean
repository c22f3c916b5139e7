import SqlSchema.Temporal.Date

/-! Times of day and moments. A leap second is the last second of its minute, with a fraction of
one second or more. -/

namespace SqlSchema.Temporal

def secondLength : Nat := 1000000000

def IsTime (hour minute second nano : Nat) : Prop :=
  hour < 24 ∧ minute < 60 ∧ second < 60 ∧ nano < 2 * secondLength
    ∧ (secondLength ≤ nano → second = 59)

instance (hour minute second nano : Nat) : Decidable (IsTime hour minute second nano) :=
  inferInstanceAs (Decidable (_ ∧ _))

structure Time where
  hour : Nat
  minute : Nat
  second : Nat
  nano : Nat
  isTime : IsTime hour minute second nano := by decide
  deriving Repr, DecidableEq

namespace Time

def midnight : Time := { hour := 0, minute := 0, second := 0, nano := 0 }

def of? (hour minute second nano : Nat) : Option Time :=
  if h : IsTime hour minute second nano then some ⟨hour, minute, second, nano, h⟩ else none

/-- The second as clocks show it, the leap second being the sixtieth. -/
def shownSecond (t : Time) : Nat :=
  if secondLength ≤ t.nano then t.second + 1 else t.second

def fraction (t : Time) : Nat :=
  t.nano % secondLength

def minuteOfDay (t : Time) : Nat :=
  60 * t.hour + t.minute

/-- The same second of another minute of the day. -/
def atMinute? (t : Time) (minute : Nat) : Option Time :=
  of? (minute / 60) (minute % 60) t.second t.nano

@[simp] theorem of?_self (t : Time) : of? t.hour t.minute t.second t.nano = some t := by
  simp [of?, t.isTime]

end Time

/-- A date with a time of day. -/
structure DateTime where
  date : Date
  time : Time
  deriving Repr, DecidableEq

/-- The moment in universal time of a local one, whose clock is ahead by some minutes, fewer than a
day has. -/
def DateTime.toUniversal? (shown : DateTime) (ahead : Int) : Option DateTime := do
  let minute : Int := shown.time.minuteOfDay - ahead
  let date ←
    if minute < 0 then shown.date.previous?
    else if minute < 1440 then some shown.date
    else shown.date.next?
  let time ← shown.time.atMinute? (minute % 1440).toNat
  return ⟨date, time⟩

end SqlSchema.Temporal
