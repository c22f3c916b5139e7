import SqlSchema.MySql.Payload

/-! # Dates and times in bytes

Integers, dates, times of day and durations as a server puts them into bytes, and which of them are
read. -/

namespace SqlSchema.MySql

open Number Temporal

/-! ## Integers in bytes -/

theorem littleEndian_toLittleEndian (width n : Nat) :
    littleEndian (toLittleEndian width n) = n % powerOfTwo (8 * width) := by
  induction width generalizing n with
  | zero => simp [toLittleEndian, littleEndian, powerOfTwo, Nat.mod_one]
  | succ width ih =>
      have hpower : powerOfTwo (8 * (width + 1)) = 256 * powerOfTwo (8 * width) := by
        rw [Nat.mul_add, Nat.mul_one, powerOfTwo_add, Nat.mul_comm]
        rfl
      rw [toLittleEndian, littleEndian, ih, hpower, UInt8.toNat_ofNat']
      exact (Nat.mod_mul ..).symm

theorem littleEndian_toLittleEndian_of_lt {width n : Nat} (h : n < powerOfTwo (8 * width)) :
    littleEndian (toLittleEndian width n) = n := by
  rw [littleEndian_toLittleEndian, Nat.mod_eq_of_lt h]

/-- The bytes of an integer with a sign, a negative one counted from the limit. -/
def signedBytes (width : Nat) (n : Int) : List UInt8 :=
  toLittleEndian width (if n < 0 then n + powerOfTwo (8 * width) else n).toNat

theorem littleEndianSigned_signedBytes {width : Nat} {n : Int}
    (hlow : -powerOfTwo (8 * width) ≤ 2 * n) (hhigh : 2 * n < powerOfTwo (8 * width)) :
    littleEndianSigned (signedBytes width n) = n := by
  have hlength : (signedBytes width n).length = width := length_toLittleEndian _ _
  rw [littleEndianSigned, hlength, signedBytes,
    littleEndian_toLittleEndian_of_lt (by split <;> omega)]
  split <;> split <;> omega

theorem littleEndian_eq_zero_iff {bytes : List UInt8} :
    littleEndian bytes = 0 ↔ bytes.all (· == 0) = true := by
  induction bytes with
  | nil => simp [littleEndian]
  | cons b rest ih =>
      have hbyte : b.toNat = 0 ↔ b = 0 := UInt8.toNat_inj (b := 0)
      rw [littleEndian, Nat.add_eq_zero_iff, hbyte, Nat.mul_eq_zero, ih, List.all_cons]
      simp

/-! ## Dates and times in bytes -/

/-- A time of day as a server holds it. -/
structure Clock where
  hour : Nat
  minute : Nat
  second : Nat
  micros : Nat
  hour_lt : hour < 24 := by decide
  minute_lt : minute < 60 := by decide
  second_lt : second < 60 := by decide
  micros_lt : micros < 1000000 := by decide
  deriving DecidableEq

def Clock.midnight : Clock where
  hour := 0
  minute := 0
  second := 0
  micros := 0

def Clock.noon : Clock where
  hour := 12
  minute := 0
  second := 0
  micros := 0

/-- The year, the month and the day of a date as a server holds it, each of which may be zero. Not
every day of a month need exist. -/
structure Day where
  year : Nat
  month : Nat
  day : Nat
  year_le : year ≤ 9999 := by decide
  month_le : month ≤ 12 := by decide
  day_le : day ≤ 31 := by decide
  deriving DecidableEq

def Day.zero : Day where
  year := 0
  month := 0
  day := 0

/-- The thirtieth of February of a year. -/
def Day.noDay : Day where
  year := 2023
  month := 2
  day := 30

theorem Day.not_isDate_zero : ¬IsDate Day.zero.year Day.zero.month Day.zero.day := by
  decide

def Day.bytes (d : Day) : List UInt8 :=
  toLittleEndian 2 d.year ++ [.ofNat d.month, .ofNat d.day]

/-- The bytes of a time of day, from which the microseconds may be left out if there are none. -/
inductive Clock.Bytes (c : Clock) : List UInt8 → Prop
  | whole (h : c.micros = 0) : Clock.Bytes c [.ofNat c.hour, .ofNat c.minute, .ofNat c.second]
  | split : Clock.Bytes c
      (.ofNat c.hour :: .ofNat c.minute :: .ofNat c.second :: toLittleEndian 4 c.micros)

/-- A content with its length before it. -/
def counted (content : List UInt8) : List UInt8 :=
  .ofNat content.length :: content

/-! ## Dates and times that are read -/

theorem content?_counted {content : List UInt8} (h : content.length < 256) :
    content? (counted content) = some content := by
  have hlength : (UInt8.ofNat content.length).toNat = content.length :=
    UInt8.toNat_ofNat_of_lt' h
  rw [counted, content?, if_pos hlength.symm]

theorem Day.toNat_month (d : Day) : (UInt8.ofNat d.month).toNat = d.month :=
  UInt8.toNat_ofNat_of_lt' (Nat.lt_of_le_of_lt d.month_le (by decide))

theorem Day.toNat_day (d : Day) : (UInt8.ofNat d.day).toNat = d.day :=
  UInt8.toNat_ofNat_of_lt' (Nat.lt_of_le_of_lt d.day_le (by decide))

theorem Clock.toNat_hour (c : Clock) : (UInt8.ofNat c.hour).toNat = c.hour :=
  UInt8.toNat_ofNat_of_lt' (Nat.lt_trans c.hour_lt (by decide))

theorem Clock.toNat_minute (c : Clock) : (UInt8.ofNat c.minute).toNat = c.minute :=
  UInt8.toNat_ofNat_of_lt' (Nat.lt_trans c.minute_lt (by decide))

theorem Clock.toNat_second (c : Clock) : (UInt8.ofNat c.second).toNat = c.second :=
  UInt8.toNat_ofNat_of_lt' (Nat.lt_trans c.second_lt (by decide))

theorem date?_bytes (d : Day) (rest : List UInt8) :
    date? (d.bytes ++ rest) = Date.of? d.year d.month d.day := by
  have hyear : littleEndian (toLittleEndian 2 d.year) = d.year :=
    littleEndian_toLittleEndian_of_lt (Nat.lt_of_le_of_lt d.year_le (by decide))
  change Date.of? (littleEndian (toLittleEndian 2 d.year)) (UInt8.ofNat d.month).toNat
    (UInt8.ofNat d.day).toNat = _
  rw [hyear, d.toNat_month, d.toNat_day]

theorem date_of?_eq_none_iff {year : Int} {month day : Nat} :
    Date.of? year month day = none ↔ ¬IsDate year month day := by
  rw [Date.of?]
  split <;> simp_all

theorem Clock.Bytes.length {c : Clock} {clock : List UInt8} (h : c.Bytes clock) :
    clock.length = 3 ∨ clock.length = 7 := by
  cases h with
  | whole => exact .inl rfl
  | split => exact .inr (by simp [length_toLittleEndian])

theorem Clock.Bytes.micros {c : Clock} {clock : List UInt8} (h : c.Bytes clock) :
    littleEndian (clock.drop 3) = c.micros := by
  cases h with
  | whole h => exact h.symm
  | split => exact littleEndian_toLittleEndian_of_lt (Nat.lt_trans c.micros_lt (by decide))

/-- The bytes of a time of day as those of one number. -/
theorem Clock.Bytes.littleEndian_eq {c : Clock} {clock : List UInt8} (h : c.Bytes clock) :
    littleEndian clock = c.hour + 256 * (c.minute + 256 * (c.second + 256 * c.micros)) := by
  rw [← h.micros]
  cases h <;> simp only [littleEndian, c.toNat_hour, c.toNat_minute, c.toNat_second, List.drop]

theorem Clock.isTime (c : Clock) : IsTime c.hour c.minute c.second (1000 * c.micros) := by
  have hmicros := c.micros_lt
  refine ⟨c.hour_lt, c.minute_lt, c.second_lt, ?_, ?_⟩ <;> rw [secondLength] <;> omega

theorem Clock.Bytes.exists_clock? {c : Clock} {clock : List UInt8} (h : c.Bytes clock) :
    ∃ time, clock? clock = some time := by
  have hof : clock? clock = Time.of? c.hour c.minute c.second (1000 * c.micros) := by
    rw [← h.micros]
    cases h <;> simp only [clock?, c.toNat_hour, c.toNat_minute, c.toNat_second, List.drop]
  exact ⟨_, hof.trans (dif_pos c.isTime)⟩

/-- The bytes of a time of day are all zero at midnight alone. -/
theorem Clock.Bytes.all_zero_iff {c : Clock} {clock : List UInt8} (h : c.Bytes clock) :
    clock.all (· == 0) = true ↔ c = .midnight := by
  rw [← littleEndian_eq_zero_iff, h.littleEndian_eq]
  obtain ⟨hour, minute, second, micros, _, _, _, _⟩ := c
  simp only [Clock.midnight, Clock.mk.injEq]
  omega

/-- A moment is read if its date is in the calendar, at midnight if it has no time of day. -/
theorem moment?_bytes {d : Day} {c : Clock} {clock : List UInt8} (h : clock = [] ∨ c.Bytes clock) :
    moment? (d.bytes ++ clock) = none ↔ ¬IsDate d.year d.month d.day := by
  have hmoment : ∃ time, moment? (d.bytes ++ clock) =
      (Date.of? d.year d.month d.day).map fun date => ⟨date, time⟩ := by
    rw [moment?, date?_bytes]
    rcases h with rfl | h
    · refine ⟨.midnight, ?_⟩
      cases Date.of? d.year d.month d.day <;> rfl
    · obtain ⟨time, htime⟩ := h.exists_clock?
      have hempty : clock.isEmpty = false := by cases h <;> rfl
      refine ⟨time, ?_⟩
      change (do
        let date ← Date.of? d.year d.month d.day
        let time ← if clock.isEmpty then some Time.midnight else clock? clock
        return (⟨date, time⟩ : DateTime)) = _
      rw [hempty, htime]
      cases Date.of? d.year d.month d.day <;> rfl
  obtain ⟨time, hmoment⟩ := hmoment
  rw [hmoment, Option.map_eq_none_iff, date_of?_eq_none_iff]

theorem duration?_bytes {negative : Bool} {days : Nat} {c : Clock} {clock : List UInt8}
    (hdays : days < powerOfTwo 32) (h : c.Bytes clock) :
    duration? ((if negative then 1 else 0) :: toLittleEndian 4 days ++ clock) = none ↔
      days ≠ 0 ∨ negative = true ∧ c ≠ .midnight := by
  have hcount : littleEndian (toLittleEndian 4 days) = days :=
    littleEndian_toLittleEndian_of_lt hdays
  have hsign : signIsFine (if negative then 1 else 0) clock = true ↔
      ¬(negative = true ∧ c ≠ .midnight) := by
    rw [Decidable.not_and_not_right, ← h.all_zero_iff]
    cases negative <;> simp [signIsFine]
  have hfields : (clock.length = 3 ∨ clock.length = 7) ∧ littleEndian (clock.drop 3) < 1000000 :=
    ⟨h.length, h.micros ▸ c.micros_lt⟩
  obtain ⟨time, htime⟩ := h.exists_clock?
  change (if littleEndian (toLittleEndian 4 days) = 0
      ∧ signIsFine (if negative then 1 else 0) clock = true
      ∧ (clock.length = 3 ∨ clock.length = 7) ∧ littleEndian (clock.drop 3) < 1000000
    then clock? clock else none) = none ↔ _
  by_cases hfine : days = 0 ∧ ¬(negative = true ∧ c ≠ .midnight)
  · rw [if_pos ⟨hcount.trans hfine.1, hsign.mpr hfine.2, hfields⟩, htime]
    exact iff_of_false nofun (by simp [hfine])
  · rw [if_neg fun h => hfine ⟨hcount.symm.trans h.1, hsign.mp h.2.1⟩]
    exact iff_of_true rfl (by grind)

end SqlSchema.MySql
